import ClusterImport.Proofs.FieldRead
import ClusterImport.Proofs.Interleaving
import ClusterImport.Proofs.Marking
import ClusterImport.Proofs.Path
/-!
A server that keeps versions. A stored CAPI cluster has a new version after every write, and a patch
that names another version than the current one is refused. So a version that is still the same means
that nothing has been written.
-/
namespace ClusterImport

/-- An object on the server. Whatever version its content names, the server's own counts. -/
structure Versioned where
  content : Json
  version : String

def versionBody (version : String) : Json :=
  .obj [("metadata", .obj [("resourceVersion", .str version)])]

def Versioned.document (o : Versioned) : Json := o.content.merge (versionBody o.version)

def versionPath : List String := ["metadata", "resourceVersion"]

structure VersionedStore where
  objects : ObjectKey → Option Versioned
  issued : ObjectKey → List String
  version_mem : ∀ key o, objects key = some o → o.version ∈ issued key

namespace VersionedStore

def current? (s : VersionedStore) (key : ObjectKey) : Option String :=
  (s.objects key).map (·.version)

def write (s : VersionedStore) (key : ObjectKey) (version : String) (content? : Option Json) :
    VersionedStore where
  objects k := if k = key then content?.map (⟨·, version⟩) else s.objects k
  issued k := if k = key then version :: s.issued k else s.issued k
  version_mem k o h := by
    by_cases hk : k = key
    · simp only [hk, if_true, Option.map_eq_some_iff] at h
      obtain ⟨content, -, rfl⟩ := h
      simp [hk]
    · simp only [hk, if_false] at h ⊢
      exact s.version_mem k o h

variable {s : VersionedStore} {key k : ObjectKey} {version : String} {content? : Option Json}

@[simp] theorem write_objects_self :
    (s.write key version content?).objects key = content?.map (⟨·, version⟩) := if_pos rfl

theorem write_objects_of_ne (h : k ≠ key) :
    (s.write key version content?).objects k = s.objects k := if_neg h

@[simp] theorem write_issued_self :
    (s.write key version content?).issued key = version :: s.issued key := if_pos rfl

theorem issued_subset_write : s.issued k ⊆ (s.write key version content?).issued k := by
  by_cases hk : k = key
  · subst hk
    rw [write_issued_self]
    exact List.subset_cons_self _ _
  · have he : (s.write key version content?).issued k = s.issued k := if_neg hk
    rw [he]
    exact List.Subset.refl _

theorem write_ne (h : version ∉ s.issued key) : s.write key version content? ≠ s := by
  intro he
  have hm : version ∈ (s.write key version content?).issued key := by simp
  rw [he] at hm
  exact h hm

/-- After a write of the key itself no version is current that was given before. -/
theorem ne_of_current?_write {v : String} (hn : v ∉ s.issued key) (hi : version ∈ s.issued k)
    (h : (s.write key v content?).current? k = some version) : k ≠ key := by
  rintro rfl
  cases content? with
  | none => simp [current?] at h
  | some content =>
    obtain rfl : v = version := by simpa [current?] using h
    exact hn hi

end VersionedStore

def Call.isCapi {W : Type} : Call W → Bool
  | .getCapiCluster _ | .patchCapiCluster _ _ => true
  | _ => false

/-- The answers of the server. A patch that names another version than the current one is refused,
and others may be. A refused patch changes nothing; for one that is accepted any answer may arrive. -/
inductive Serves {W : Type} : VersionedStore → Exchange W → VersionedStore → Prop
  | unread {s : VersionedStore} (key : ObjectKey) (e : KubeError) :
      Serves s ⟨.getCapiCluster key, .error e⟩ s
  | absent {s : VersionedStore} {key : ObjectKey} (h : s.objects key = none) :
      Serves s ⟨.getCapiCluster key, .ok none⟩ s
  | read {s : VersionedStore} {key : ObjectKey} {o : Versioned} {c : CapiCluster}
      (h : s.objects key = some o) (hc : CapiCluster.decode o.document = some c) :
      Serves s ⟨.getCapiCluster key, .ok (some c)⟩ s
  | rejected {s : VersionedStore} (key : ObjectKey) (patch : Json) (e : KubeError) :
      Serves s ⟨.patchCapiCluster key patch, .error e⟩ s
  | accepted {s : VersionedStore} {key : ObjectKey} {o : Versioned} {patch : Json} {version : String}
      (h : s.objects key = some o)
      (hv : ∀ v, patch.at? versionPath = some v → v = .str o.version)
      (hn : version ∉ s.issued key) (x : Except KubeError Unit) :
      Serves s ⟨.patchCapiCluster key patch, x⟩
        (s.write key version (some (o.document.merge patch)))
  | other {s : VersionedStore} {x : Exchange W} (h : x.call.isCapi = false) : Serves s x s

structure Overwrite where
  key : ObjectKey
  content? : Option Json

def versionedService (ι W : Type) : Service ι W VersionedStore Overwrite where
  answers _ s x t := Serves s x t
  changes s e t := ∃ version, version ∉ s.issued e.key ∧ t = s.write e.key version e.content?

variable {ι W : Type} {s t : VersionedStore} {key : ObjectKey}
  {moments : List (Moment ι W VersionedStore Overwrite)}

/-- All that can happen to the store at a moment. -/
theorem Moment.still_or_write {m : Moment ι W VersionedStore Overwrite}
    (h : (versionedService ι W).Allows m) :
    m.after = m.before ∨ ∃ key version content?, version ∉ m.before.issued key ∧
      m.after = m.before.write key version content? := by
  obtain ⟨before, event, after⟩ := m
  cases event with
  | asked i x =>
    have h : Serves before x after := h
    cases h with
    | accepted _ _ hn => exact .inr ⟨_, _, _, hn, rfl⟩
    | _ => exact .inl rfl
  | changed e =>
    obtain ⟨version, hn, hw⟩ := h
    exact .inr ⟨_, _, _, hn, hw⟩

theorem CapiCluster.metadata_of_decode {ms : Dict Json} {c : CapiCluster}
    (h : CapiCluster.decode (.obj ms) = some c) :
    Decode.required ObjectMeta.decode "metadata" ms = some c.metadata := by
  obtain ⟨_, hms, hm, -⟩ := decode_eq_some.1 h
  cases hms
  exact hm

/-- A cluster that is read from the server has the version that the server gave it. -/
theorem Versioned.resourceVersion_of_decode {o : Versioned} {c : CapiCluster}
    (h : CapiCluster.decode o.document = some c) : c.metadata.resourceVersion = some o.version := by
  have hm := CapiCluster.metadata_of_decode h
  rw [Json.mergeMembers_obj, Json.mergeMembers, Decode.required, Dict.get?_insert_self,
    Option.bind_some] at hm
  obtain ⟨ms, hms, -, -, -, -, -, -, -, -, -, -, -, -, hversion, -⟩ :=
    ObjectMeta.decode_eq_some.1 hm
  obtain rfl := Option.some.inj hms
  rw [Json.mergeMembers_str, Json.mergeMembers, Decode.maybe, Dict.get?_insert_self] at hversion
  exact (Option.some.inj hversion).symm

/-- A read leaves the store as it is, and tells the version. -/
theorem Moment.version_of_read {m : Moment ι W VersionedStore Overwrite} {i : ι} {c : CapiCluster}
    (h : (versionedService ι W).Allows m)
    (he : m.event = .asked i ⟨.getCapiCluster key, .ok (some c)⟩) :
    m.after = m.before ∧ ∃ o, m.before.objects key = some o ∧
      c.metadata.resourceVersion = some o.version := by
  simp only [Service.Allows, he, versionedService] at h
  generalize m.after = t at h ⊢
  cases h with
  | read ho hc => exact ⟨rfl, _, ho, Versioned.resourceVersion_of_decode hc⟩
  | other h => simp [Call.isCapi] at h

/-- What becomes of a patch. -/
theorem Moment.patch_cases {m : Moment ι W VersionedStore Overwrite} {i : ι} {patch : Json}
    {x : Except KubeError Unit} (h : (versionedService ι W).Allows m)
    (he : m.event = .asked i ⟨.patchCapiCluster key patch, x⟩) :
    (m.after = m.before ∧ ∃ e, x = .error e) ∨
      (m.after ≠ m.before ∧ ∃ o, m.before.objects key = some o ∧
        ∀ v, patch.at? versionPath = some v → v = .str o.version) := by
  simp only [Service.Allows, he, versionedService] at h
  generalize m.after = t at h ⊢
  cases h with
  | rejected _ _ e => exact .inl ⟨rfl, e, rfl⟩
  | accepted ho hv hn _ => exact .inr ⟨VersionedStore.write_ne hn, _, ho, hv⟩
  | other h => simp [Call.isCapi] at h

/-- A version that has gone does not come back. -/
theorem VersionedStore.not_current_of_evolves {version : String}
    (h : (versionedService ι W).Evolves s moments t) (hi : version ∈ s.issued key)
    (hc : s.current? key ≠ some version) : t.current? key ≠ some version := by
  induction h with
  | nil => exact hc
  | @cons m rest t hm _ ih =>
    rcases Moment.still_or_write hm with hs | ⟨k, v, content?, hn, hs⟩
    · rw [hs] at ih
      exact ih hi hc
    · rw [hs] at ih
      refine ih (issued_subset_write hi) fun he => ?_
      rw [current?, write_objects_of_ne (ne_of_current?_write hn hi he)] at he
      exact hc he

/-- Where the version is still the same, nothing has been written in between. -/
theorem VersionedStore.unwritten_of_current {o : Versioned}
    (h : (versionedService ι W).Evolves s moments t) (ho : s.objects key = some o)
    (hc : t.current? key = some o.version) :
    ∀ m ∈ moments, m.after.objects key = m.before.objects key := by
  induction h with
  | nil => simp
  | @cons m rest t hm hrest ih =>
    have hsame : m.after.objects key = m.before.objects key := by
      rcases Moment.still_or_write hm with hs | ⟨k, v, content?, hn, hs⟩
      · rw [hs]
      · have hi : o.version ∈ m.before.issued key := m.before.version_mem key o ho
        by_cases hk : key = k
        -- a write here takes the version away, and it would have to come back
        · refine absurd hc (not_current_of_evolves hrest ?_ fun he => ?_)
          · rw [hs]
            exact issued_subset_write hi
          · rw [hs] at he
            exact ne_of_current?_write hn hi he hk
        · rw [hs, write_objects_of_ne hk]
    simp only [List.forall_mem_cons]
    exact ⟨hsame, ih (hsame.trans ho) hc⟩

end ClusterImport
