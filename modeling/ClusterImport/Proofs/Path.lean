import ClusterImport.Proofs.MergePatch
/-!
Paths into JSON values. A merge patch changes a value along the paths that the patch has itself; what
is beside them stays.
-/
namespace ClusterImport.Json

def at? : List String → Json → Option Json
  | [], v => some v
  | key :: rest, v => (v.get? key).bind (at? rest)

def Apart (path other : List String) : Prop := ¬path <+: other ∧ ¬other <+: path

@[simp] theorem apart_nil_left {path : List String} : ¬Apart [] path :=
  fun h => h.1 List.nil_prefix

@[simp] theorem apart_nil_right {path : List String} : ¬Apart path [] :=
  fun h => h.2 List.nil_prefix

@[simp] theorem apart_cons {k key : String} {path other : List String} :
    Apart (k :: path) (key :: other) ↔ (k = key → Apart path other) := by
  simp only [Apart, List.cons_prefix_cons]
  by_cases hk : k = key
  · simp [hk]
  · simp [hk, Ne.symm hk]

def Spares : List String → Json → Prop
  | key :: rest, .obj members => ∀ v, (key, v) ∈ members → Spares rest v
  | _, _ => False

theorem spares_iff {path : List String} {patch : Json} :
    Spares path patch ↔ ∃ key rest members, path = key :: rest ∧ patch = .obj members ∧
      ∀ v, (key, v) ∈ members → Spares rest v := by
  constructor
  · intro h
    unfold Spares at h
    split at h
    · exact ⟨_, _, _, rfl, rfl, h⟩
    · exact h.elim
  · rintro ⟨key, rest, members, rfl, rfl, h⟩
    exact h

theorem get?_eq_membersOrNone (key : String) (v : Json) :
    v.get? key = Dict.get? key v.membersOrNone := by
  cases v <;> rfl

theorem mergeMembers_cons (target : Dict Json) (key : String) {v : Json} (hv : v ≠ null)
    (rest : List (String × Json)) :
    mergeMembers target ((key, v) :: rest) = mergeMembers
      (Dict.insert key (merge ((Dict.get? key target).getD null) v) target) rest := by
  cases v with
  | null => exact absurd rfl hv
  | _ => rfl

theorem at?_mergeMembers {key : String} {rest : List String}
    (ih : ∀ v, Spares rest v → ∀ target, at? rest (merge target v) = at? rest target)
    {patch : List (String × Json)} (h : ∀ v, (key, v) ∈ patch → Spares rest v) (d : Dict Json) :
    (Dict.get? key (mergeMembers d patch)).bind (at? rest) =
      (Dict.get? key d).bind (at? rest) := by
  induction patch generalizing d with
  | nil => rfl
  | cons p patch ihp =>
    obtain ⟨k, v⟩ := p
    have ihp := ihp fun w hw => h w (List.mem_cons_of_mem _ hw)
    by_cases hk : key = k
    · subst hk
      have hs : Spares rest v := h v (by simp)
      obtain ⟨next, deeper, members, rfl, rfl, -⟩ := spares_iff.1 hs
      rw [mergeMembers_obj, ihp, Dict.get?_insert_self, Option.bind_some, ih _ hs]
      cases Dict.get? key d <;> rfl
    · by_cases hv : v = null
      · rw [hv, mergeMembers, ihp, Dict.get?_erase_of_ne hk]
      · rw [mergeMembers_cons d k hv, ihp, Dict.get?_insert_of_ne hk]

/-- What a patch spares is not changed by merging it. -/
theorem at?_merge {path : List String} {patch : Json} (h : Spares path patch) (target : Json) :
    at? path (merge target patch) = at? path target := by
  induction path generalizing patch target with
  | nil => simp [Spares] at h
  | cons key rest ih =>
    obtain ⟨_, _, members, ⟨⟩, rfl, hm⟩ := spares_iff.1 h
    rw [merge_obj, at?, at?, get?_eq_membersOrNone key target]
    exact at?_mergeMembers (fun v hv target => ih hv target) hm _

end ClusterImport.Json
