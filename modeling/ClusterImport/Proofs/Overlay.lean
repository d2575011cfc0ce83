import ClusterImport.Proofs.Difference
/-!
Patches merged into another value than the one they were computed from. What the difference of two
objects does to a third is told key by key: a member that both have alike is left as the third has
it, and one that neither has stays.
-/
namespace ClusterImport

namespace Dict

variable {α : Type}

/-- Two dictionaries in order are equal if they have the same under every key. -/
theorem ext_get? {a b : Dict α} (ha : a.Ordered) (hb : b.Ordered)
    (h : ∀ key, get? key a = get? key b) : a = b := by
  induction a generalizing b with
  | nil => exact (eq_nil_of_get? fun key => (h key).symm).symm
  | cons p a ih =>
    obtain ⟨k, v⟩ := p
    cases b with
    | nil => exact eq_nil_of_get? h
    | cons q b =>
      obtain ⟨l, w⟩ := q
      have hk := h k
      have hl := h l
      -- of two unequal first keys the lower is in one of the dictionaries only
      have heq : k = l := by
        refine String.le_antisymm (fun hlt => ?_) (fun hlt => ?_)
        · rw [get?_cons_of_lt ha hlt, get?, if_pos rfl] at hl
          cases hl
        · rw [get?_cons_of_lt hb hlt, get?, if_pos rfl] at hk
          cases hk
      subst heq
      rw [get?, if_pos rfl, get?, if_pos rfl] at hk
      obtain rfl : v = w := Option.some.inj hk
      refine congrArg _ (ih (List.pairwise_cons.1 ha).2 (List.pairwise_cons.1 hb).2 fun key => ?_)
      by_cases hkey : key = k
      · rw [hkey, get?_head ha, get?_head hb]
      · simpa only [get?_cons_of_ne hkey] using h key

theorem get?_eq_none_of_keys {d : Dict α} {names : List String} (h : d.keys.Sublist names)
    {key : String} (hk : key ∉ names) : get? key d = none := by
  cases hg : get? key d with
  | none => rfl
  | some v => exact absurd (h.subset (List.mem_map_of_mem (mem_of_get? hg))) hk

end Dict

namespace Json

theorem at?_single (key : String) (v : Json) : at? [key] v = v.get? key := Option.bind_fun_some _

theorem at?_pair (k key : String) (v : Json) :
    at? [k, key] v = (v.get? k).bind (Json.get? key) :=
  congrArg _ (funext fun _ => at?_single key _)

/-- What merging the difference of two values makes of a third one. -/
def overlay (raw old new : Json) : Json :=
  match diff old new with
  | none => raw
  | some patch => merge raw patch

def memberChange (old new : Option Json) : Option Json :=
  match new, old with
  | none, none => none
  | none, some _ => some null
  | some v, none => some v
  | some v, some o => diff o v

def overlayMember (raw old new : Option Json) : Option Json :=
  mergedMember raw (memberChange old new)

theorem overlay_of_diff_eq_none {old new : Json} (h : diff old new = none) (raw : Json) :
    overlay raw old new = raw := by
  rw [overlay, h]

theorem merge_ne_null {patch : Json} (h : patch ≠ null) (raw : Json) : merge raw patch ≠ null := by
  cases patch with
  | obj members => exact nofun
  | null => exact absurd rfl h
  | _ => exact nofun

theorem overlay_ne_null {raw new : Json} (hr : raw ≠ null) (hn : new ≠ null) (old : Json) :
    overlay raw old new ≠ null := by
  rw [overlay]
  cases hd : diff old new with
  | none => exact hr
  | some patch => exact merge_ne_null (ne_null_of_diff hn hd) raw

theorem overlay_obj (raw old new : Dict Json) :
    overlay (obj raw) (obj old) (obj new) = obj (mergeMembers raw (memberPatch old new)) := by
  rw [overlay, diff_obj_obj]
  by_cases hp : (memberPatch old new).isEmpty
  · rw [if_pos hp, List.isEmpty_iff.1 hp]
    rfl
  · rw [if_neg hp]
    rfl

theorem get?_memberPatch_eq {new : Dict Json} (hn : new.Ordered) (old : Dict Json) (key : String) :
    Dict.get? key (memberPatch old new) =
      memberChange (Dict.get? key old) (Dict.get? key new) :=
  get?_memberPatch hn old key

theorem get?_overlay {raw new : Dict Json} (hr : raw.Ordered) (hn : new.Ordered) (old : Dict Json)
    (key : String) : Dict.get? key (mergeMembers raw (memberPatch old new)) =
      overlayMember (Dict.get? key raw) (Dict.get? key old) (Dict.get? key new) := by
  rw [get?_mergeMembers hr (ordered_memberPatch old hn), get?_memberPatch_eq hn, overlayMember]

section Member

variable {raw old : Option Json} {v : Json}

theorem overlayMember_none (raw : Option Json) : overlayMember raw none none = raw := rfl

theorem overlayMember_added (h : v ≠ null) (raw : Option Json) :
    overlayMember raw none (some v) = some (merge (raw.getD null) v) :=
  mergedMember_some raw h

theorem overlayMember_changed (h : v ≠ null) (raw o : Json) :
    overlayMember (some raw) (some o) (some v) = some (overlay raw o v) := by
  rw [overlayMember, memberChange, overlay]
  cases hd : diff o v with
  | none => rfl
  | some patch => exact mergedMember_some (some raw) (ne_null_of_diff h hd)

theorem overlayMember_obj (raw old new : Dict Json) :
    overlayMember (some (obj raw)) (some (obj old)) (some (obj new)) =
      some (obj (mergeMembers raw (memberPatch old new))) := by
  rw [overlayMember_changed (show obj new ≠ null from nofun), overlay_obj]

/-- What both sides have alike stays as it is. -/
theorem overlayMember_of_not_differ {raw old new : Option Json} (h : ¬Differ old new)
    (hd : ∀ v w, old = some v → new = some w → (v == w) = true → diff v w = none) :
    overlayMember raw old new = raw := by
  match old, new with
  | none, none => rfl
  | none, some w => exact absurd trivial h
  | some v, none => exact absurd trivial h
  | some v, some w =>
    have hn : diff v w = none := hd v w rfl rfl (Bool.of_not_eq_false h)
    rw [overlayMember, memberChange, hn]
    rfl

end Member

/-- Members none of which is null are a patch that makes an object of nothing. -/
theorem mergeMembers_nil {d : Dict Json} (hd : d.Ordered)
    (h : ∀ p ∈ d, p.2 ≠ null ∧ merge null p.2 = p.2) : mergeMembers [] d = d := by
  refine Dict.ext_get? (ordered_mergeMembers List.Pairwise.nil d) hd fun key => ?_
  rw [get?_mergeMembers List.Pairwise.nil hd]
  cases hk : Dict.get? key d with
  | none => rfl
  | some v =>
    obtain ⟨hne, hmerge⟩ := h _ (Dict.mem_of_get? hk)
    rw [mergedMember_some _ hne]
    exact congrArg some hmerge

theorem eqvMembers_append {a b c d : Dict Json} (h : eqvMembers a b = true)
    (h' : eqvMembers c d = true) : eqvMembers (a ++ c) (b ++ d) = true := by
  induction a generalizing b with
  | nil =>
    cases b with
    | nil => exact h'
    | cons q b => cases h
  | cons p a ih =>
    obtain ⟨k, v⟩ := p
    cases b with
    | nil => cases h
    | cons q b =>
      obtain ⟨l, w⟩ := q
      simp only [eqvMembers, List.cons_append, Bool.and_eq_true] at h ⊢
      exact ⟨h.1, ih h.2⟩

end Json

end ClusterImport
