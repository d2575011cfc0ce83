import ClusterImport.Proofs.Versions
/-!
Reconciles beside other writers. The patches of a reconcile are against the version that it has read,
so that they come to nothing when anybody has written in between; and they write the mark, so that
the rest of what others wrote stays.
-/
namespace ClusterImport

open Import Json

variable {ι W : Type} {requeueAfter : Nat} {s t : VersionedStore} {key : ObjectKey}
  {moments : List (Moment ι W VersionedStore Overwrite)}

def importedPath : List String := ["metadata", "annotations", "imported"]

theorem spares_versionBody {path : List String} (h : Apart path versionPath) (version : String) :
    Spares path (versionBody version) := by
  match path with
  | [] => simp at h
  | [k] => simp_all [versionPath, versionBody, Spares]
  | k :: l :: rest => simp_all [versionPath, versionBody, Spares]

theorem spares_markBody {path : List String} (hi : Apart path importedPath)
    (hv : Apart path versionPath) (version? : Option String) :
    Spares path (markBody version?) := by
  match path with
  | [] => simp at hi
  | [k] => cases version? <;> simp_all [importedPath, markBody, Spares]
  | [k, l] => cases version? <;> simp_all [importedPath, versionPath, markBody, Spares]
  | k :: l :: m :: rest => cases version? <;> simp_all [importedPath, versionPath, markBody, Spares]

theorem at?_imported_merge (target : Json) (version? : Option String) :
    at? importedPath (target.merge (markBody version?)) = some (.str "true") := by
  cases version? <;>
    simp [importedPath, markBody, at?, Json.get?, merge, mergeMembers, Dict.get?_insert_of_ne]

/-- Nothing has been lost but the value of the annotation and the version. -/
def Kept : Option Versioned → Option Versioned → Prop
  | none, none => True
  | some o, some p =>
    (∀ path, Apart path importedPath → Apart path versionPath →
      at? path p.document = at? path o.document) ∧
    (at? importedPath p.document = at? importedPath o.document ∨
      at? importedPath p.document = some (.str "true"))
  | _, _ => False

theorem Kept.refl (o : Option Versioned) : Kept o o := by
  cases o with
  | none => trivial
  | some o => exact ⟨fun _ _ _ => rfl, .inl rfl⟩

theorem Kept.trans {o p q : Option Versioned} (h : Kept o p) (k : Kept p q) : Kept o q := by
  match o, p, q with
  | none, none, none => trivial
  | some o, some p, some q =>
    refine ⟨fun path hi hv => (k.1 path hi hv).trans (h.1 path hi hv), ?_⟩
    rcases k.2 with hk | hk
    · rw [hk]
      exact h.2
    · exact .inr hk

theorem kept_mark (o : Versioned) (version? : Option String) (version : String) :
    Kept (some o) (some ⟨o.document.merge (markBody version?), version⟩) := by
  refine ⟨fun path hi hv => ?_, .inr ?_⟩
  · rw [Versioned.document, at?_merge (spares_versionBody hv version),
      at?_merge (spares_markBody hi hv version?)]
  · have ha : Apart importedPath versionPath := by simp [importedPath, versionPath]
    rw [Versioned.document, at?_merge (spares_versionBody ha version), at?_imported_merge]

/-- Where a patch stands in a reconcile. -/
theorem patch_last {before after : List (Exchange W)} {k : ObjectKey} {patch : Json}
    {x : Except KubeError Unit} {result : Except ControllerError Requeue}
    (h : Runs (reconcile requeueAfter key) (before ++ ⟨.patchCapiCluster k patch, x⟩ :: after)
      result) :
    ∃ (c : CapiCluster) (read : Exchange W), k = key ∧ patch = markBody c.metadata.resourceVersion ∧
      before = [⟨.getCapiCluster key, .ok (some c)⟩, read] ∧ read.call.isCapi = false ∧
      after = [] ∧ result = (x.mapError .kube).map fun _ => .never := by
  generalize ht : before ++ ⟨.patchCapiCluster k patch, x⟩ :: after = trace at h
  rcases (reconcileCourse h).marking_or_not with ⟨c, hm⟩ | ⟨hnone, -⟩
  · cases hm with
    | @intro rk rancher hc hk hd hm y =>
      have hreads : ∀ z ∈ ([⟨.getCapiCluster key, .ok (some c)⟩,
          ⟨.getRancherCluster rk, .ok (some rancher)⟩] : List (Exchange W)),
          ¬z.call.isPatch = true := by
        simp [Call.isPatch]
      obtain ⟨rfl, he, rfl⟩ := split_last hreads rfl ht.symm
      cases he
      exact ⟨c, _, rfl, c.markPatch_eq, rfl, rfl, rfl, rfl⟩
  · have := hnone ⟨.patchCapiCluster k patch, x⟩ (by simp [← ht])
    simp [Call.isPatch] at this

/-- A call of a reconcile keeps what others have written. -/
theorem Moment.kept {m : Moment ι W VersionedStore Overwrite}
    (h : (versionedService ι W).Allows m)
    (hp : ∀ i k patch x, m.event = .asked i ⟨.patchCapiCluster k patch, x⟩ →
      ∃ version?, patch = markBody version?)
    (he : ∀ e, m.event = .changed e → e.key ≠ key) :
    Kept (m.before.objects key) (m.after.objects key) := by
  obtain ⟨before, event, after⟩ := m
  cases event with
  | asked i x =>
    have h : Serves before x after := h
    cases h with
    | @accepted k o patch version ho _ _ x =>
      obtain ⟨version?, rfl⟩ := hp i k patch x rfl
      by_cases hk : key = k
      · subst hk
        rw [VersionedStore.write_objects_self, ho]
        exact kept_mark o version? version
      · rw [VersionedStore.write_objects_of_ne hk]
        exact Kept.refl _
    | _ => exact Kept.refl _
  | changed e =>
    obtain ⟨version, -, hw⟩ := h
    have hw : after = before.write e.key version e.content? := hw
    rw [hw, VersionedStore.write_objects_of_ne (he e rfl).symm]
    exact Kept.refl _

theorem kept_of_evolves (h : (versionedService ι W).Evolves s moments t)
    (hp : ∀ m ∈ moments, ∀ i k patch x, m.event = .asked i ⟨.patchCapiCluster k patch, x⟩ →
      ∃ version?, patch = markBody version?)
    (he : ∀ m ∈ moments, ∀ e, m.event = .changed e → e.key ≠ key) :
    Kept (s.objects key) (t.objects key) := by
  induction h with
  | nil => exact Kept.refl _
  | cons hm _ ih =>
    simp only [List.forall_mem_cons] at hp he
    exact (Moment.kept hm hp.1 he.1).trans (ih hp.2 he.2)

variable [DecidableEq ι] {keys : ι → ObjectKey} {start final : VersionedStore}

/-- The reconcile has read the cluster at the key, and since then nothing has been written there: a
write always changes what is stored, if only the version. -/
def UnwrittenSinceRead (i : ι) (k : ObjectKey)
    (moments : List (Moment ι W VersionedStore Overwrite)) : Prop :=
  ∃ past read since c, moments = past ++ read :: since ∧
    read.event = .asked i ⟨.getCapiCluster k, .ok (some c)⟩ ∧
    (∀ y ∈ exchangesOf i since, y.call.isCapi = false) ∧
    ∀ n ∈ since, n.after.objects k = n.before.objects k

structure NoLostUpdate (requeueAfter : Nat) (keys : ι → ObjectKey) (start : VersionedStore)
    (moments : List (Moment ι W VersionedStore Overwrite)) (final : VersionedStore) : Prop where
  /-- A patch that takes effect is on the key of its reconcile, and against what is there. -/
  current : ∀ before m after i k patch x, moments = before ++ m :: after →
    m.event = .asked i ⟨.patchCapiCluster k patch, x⟩ → m.after ≠ m.before →
    k = keys i ∧ UnwrittenSinceRead i k before
  /-- What is at a key at some point is kept as long as nobody else writes there. -/
  kept : ∀ first second s k, moments = first ++ second →
    (versionedService ι W).Evolves start first s →
    (∀ m ∈ second, ∀ e, m.event = .changed e → e.key ≠ k) →
    Kept (s.objects k) (final.objects k)
  /-- A reconcile whose patch has no effect has failed, and it has ended with that. -/
  refused : ∀ m ∈ moments, ∀ i k patch x,
    m.event = .asked i ⟨.patchCapiCluster k patch, x⟩ → m.after = m.before →
    ∃ e, x = .error e ∧ FailedWith requeueAfter (keys i) (exchangesOf i moments) e

theorem at?_version_markBody (version : String) :
    at? versionPath (markBody (some version)) = some (.str version) := rfl

section Patch

variable {before after : List (Moment ι W VersionedStore Overwrite)}
  {m : Moment ι W VersionedStore Overwrite} {i : ι} {k : ObjectKey} {patch : Json}
  {x : Except KubeError Unit}

/-- A patch that takes effect is against the version that has been read. -/
theorem unwritten_since_read
    (h : Interleaving (versionedService ι W) (reconciling requeueAfter keys) start
      (before ++ m :: after) final)
    (hm : m.event = .asked i ⟨.patchCapiCluster k patch, x⟩) (hw : m.after ≠ m.before) :
    k = keys i ∧ UnwrittenSinceRead i k before := by
  obtain ⟨rest, result, hr⟩ := h.exists_runs hm
  obtain ⟨c, next, rfl, rfl, hbefore, hnext, -, -⟩ := patch_last hr
  obtain ⟨past, read, since, rfl, hread, hsince⟩ := exists_first_moment hbefore
  obtain ⟨hfirst, hallow, -⟩ := h.evolves.at_moment
  obtain ⟨-, hallowRead, hbetween⟩ := hfirst.at_moment
  obtain ⟨hstill, o, ho, hversion⟩ := read.version_of_read hallowRead hread
  rw [hstill] at hbetween
  refine ⟨rfl, past, read, since, c, rfl, hread, by simp [hsince, hnext], ?_⟩
  rcases m.patch_cases hallow hm with ⟨hs, -⟩ | ⟨-, p, hp, hv⟩
  · exact absurd hs hw
  · rw [hversion] at hv
    have he : Json.str o.version = .str p.version := hv _ (at?_version_markBody _)
    have hcurrent : m.before.current? (keys i) = some o.version := by
      rw [VersionedStore.current?, hp, Json.str.inj he]
      rfl
    exact VersionedStore.unwritten_of_current hbetween ho hcurrent

theorem failed_of_refused
    (h : Interleaving (versionedService ι W) (reconciling requeueAfter keys) start
      (before ++ m :: after) final)
    (hm : m.event = .asked i ⟨.patchCapiCluster k patch, x⟩) (hs : m.after = m.before) :
    ∃ e, x = .error e ∧
      FailedWith requeueAfter (keys i) (exchangesOf i (before ++ m :: after)) e := by
  obtain ⟨-, hallow, -⟩ := h.evolves.at_moment
  rcases m.patch_cases hallow hm with ⟨-, e, rfl⟩ | ⟨hw, -⟩
  · refine ⟨e, rfl, (h.ended hm fun first rest result hr => ?_).2⟩
    obtain ⟨-, -, -, -, -, -, hrest, hresult⟩ := patch_last hr
    exact ⟨hrest, hresult⟩
  · exact absurd hs hw

end Patch

/-- No order of the calls makes a reconcile overwrite what it has not read. -/
theorem noLostUpdate_of_interleaving
    (h : Interleaving (versionedService ι W) (reconciling requeueAfter keys) start moments final) :
    NoLostUpdate requeueAfter keys start moments final where
  current before m after i k patch x hs hm hw := by
    subst hs
    exact unwritten_since_read h hm hw
  kept first second s k hs hfirst he := by
    subst hs
    obtain ⟨u, hu, hsecond⟩ := Service.evolves_append.1 h.evolves
    obtain rfl := hfirst.unique hu
    refine kept_of_evolves hsecond (fun m hm i k patch x hasked => ?_) he
    obtain ⟨before, after, rfl⟩ := List.append_of_mem hm
    rw [← List.append_assoc] at h
    obtain ⟨rest, result, hr⟩ := h.exists_runs hasked
    obtain ⟨c, -, -, hpatch, -⟩ := patch_last hr
    exact ⟨_, hpatch⟩
  refused m hm i k patch x he hs := by
    obtain ⟨before, after, rfl⟩ := List.append_of_mem hm
    exact failed_of_refused h he hs

def swansKeptBy (keeper : String) : Json :=
  .obj [("metadata", .obj [("labels", .obj [("keeper", .str keeper)]), ("name", .str "swans"),
      ("namespace", .str "pond")]), ("spec", .obj []),
    ("status", .obj [("controlPlaneReady", .bool true)])]

def swansRead (keeper version : String) : CapiCluster where
  metadata := {
    labels := some (.ofList [("keeper", keeper)]), name := some "swans", inNamespace := some "pond"
    resourceVersion := some version }
  spec := {}
  status := some {
    phase := none, infrastructureReady := false, controlPlaneReady := true, conditions := []
    observedGeneration := none }

theorem decode_swansKeptBy (keeper version : String) :
    CapiCluster.decode (Versioned.document ⟨swansKeptBy keeper, version⟩) =
      some (swansRead keeper version) := by
  cbv

def swansKey : ObjectKey := ⟨"pond", "swans"⟩

def swansStore : VersionedStore :=
  VersionedStore.write ⟨fun _ => none, fun _ => [], by simp⟩ swansKey "1" (some (swansKeptBy "ann"))

def swansRewritten : VersionedStore := swansStore.write swansKey "2" (some (swansKeptBy "bob"))

def swansMarked : VersionedStore := swansRewritten.write swansKey "3"
  (some ((Versioned.document ⟨swansKeptBy "bob", "2"⟩).merge (markBody (some "2"))))

def overtaken : KubeError := .api (.failure 409 "Conflict" "the object has been modified")

/-- The first reconcile is refused, and the second marks the cluster. -/
def swansRace : List (Moment Bool Unit VersionedStore Overwrite) := [
  ⟨swansStore, .asked false ⟨.getCapiCluster swansKey, .ok (some (swansRead "ann" "1"))⟩, swansStore⟩,
  ⟨swansStore, .changed ⟨swansKey, some (swansKeptBy "bob")⟩, swansRewritten⟩,
  ⟨swansRewritten, .asked true ⟨.getCapiCluster swansKey, .ok (some (swansRead "bob" "2"))⟩,
    swansRewritten⟩,
  ⟨swansRewritten, .asked false ⟨.getRancherCluster ⟨"pond", "swans-capi"⟩, .ok (some leaving)⟩,
    swansRewritten⟩,
  ⟨swansRewritten, .asked false ⟨.patchCapiCluster swansKey (markBody (some "1")), .error overtaken⟩,
    swansRewritten⟩,
  ⟨swansRewritten, .asked true ⟨.getRancherCluster ⟨"pond", "swans-capi"⟩, .ok (some leaving)⟩,
    swansRewritten⟩,
  ⟨swansRewritten, .asked true ⟨.patchCapiCluster swansKey (markBody (some "2")), .ok ()⟩,
    swansMarked⟩]

theorem swansCourse (keeper version : String) (x : Except KubeError Unit) :
    MarkingCourse (W := Unit) swansKey (swansRead keeper version)
      [⟨.getCapiCluster swansKey, .ok (some (swansRead keeper version))⟩,
        ⟨.getRancherCluster ⟨"pond", "swans-capi"⟩, .ok (some leaving)⟩,
        ⟨.patchCapiCluster swansKey (swansRead keeper version).markPatch, x⟩]
      ((x.mapError .kube).map fun _ => .never) :=
  .intro rfl rfl rfl rfl x

theorem noLostUpdate_swansRace :
    Interleaving (versionedService Bool Unit) (reconciling 30 fun _ => swansKey) swansStore swansRace
        swansMarked ∧
      NoLostUpdate 30 (fun _ => swansKey) swansStore swansRace swansMarked := by
  have hs : swansStore.objects swansKey = some ⟨swansKeptBy "ann", "1"⟩ := rfl
  have hr : swansRewritten.objects swansKey = some ⟨swansKeptBy "bob", "2"⟩ := rfl
  have h : Interleaving (versionedService Bool Unit) (reconciling 30 fun _ => swansKey) swansStore
      swansRace swansMarked := by
    constructor
    · refine Service.evolves_cons.2 ⟨rfl, Serves.read hs (decode_swansKeptBy "ann" "1"), ?_⟩
      refine Service.evolves_cons.2 ⟨rfl, ⟨"2", by decide, rfl⟩, ?_⟩
      refine Service.evolves_cons.2 ⟨rfl, Serves.read hr (decode_swansKeptBy "bob" "2"), ?_⟩
      refine Service.evolves_cons.2 ⟨rfl, Serves.other rfl, ?_⟩
      refine Service.evolves_cons.2 ⟨rfl, Serves.rejected _ _ _, ?_⟩
      refine Service.evolves_cons.2 ⟨rfl, Serves.other rfl, ?_⟩
      refine Service.evolves_cons.2 ⟨rfl, Serves.accepted hr ?_ (by decide) _, .nil _⟩
      rintro v ⟨⟩
      rfl
    · rintro (_ | _)
      · exact Proc.Runs.begins (swansCourse "ann" "1" (.error overtaken)).runs
      · exact Proc.Runs.begins (swansCourse "bob" "2" (.ok ())).runs
  exact ⟨h, noLostUpdate_of_interleaving h⟩

end ClusterImport
