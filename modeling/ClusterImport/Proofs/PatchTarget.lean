import ClusterImport.Proofs.Path
/-!
What a patch leads to. Merging the difference of two values into the first gives the second, but for
members that are null: in a patch null says that a member goes, so a null of the second value may be
absent from the result. Arrays come over whole, with all that is in them.
-/
namespace ClusterImport

namespace Dict

variable {α : Type}

theorem sublist_erase (key : String) (d : Dict α) : (erase key d).Sublist d := by
  induction d with
  | nil => exact List.Sublist.refl _
  | cons p rest ih =>
    simp only [erase]
    split
    · exact List.sublist_cons_self p rest
    · exact ih.cons_cons p

theorem ordered_erase {d : Dict α} (h : d.Ordered) (key : String) : (erase key d).Ordered :=
  h.sublist (sublist_erase key d)

theorem ordered_of_keys {d e : Dict α} (h : d.keys.Sublist e.keys) (he : e.Ordered) : d.Ordered :=
  ordered_iff_keys.2 ((ordered_iff_keys.1 he).sublist h)

theorem get?_head {d : Dict α} {key : String} {value : α} (h : Ordered ((key, value) :: d)) :
    get? key d = none :=
  get?_eq_none_of_lt (List.pairwise_cons.1 h).1

theorem get?_cons_of_ne {key other : String} (h : other ≠ key) (value : α) (d : Dict α) :
    get? other ((key, value) :: d) = get? other d := by
  simp [get?, Ne.symm h]

/-- A dictionary has no key that is below its first one. -/
theorem get?_cons_of_lt {key other : String} {value : α} {d : Dict α}
    (h : Ordered ((key, value) :: d)) (hlt : other < key) :
    get? other ((key, value) :: d) = none := by
  refine get?_eq_none_of_lt fun p hp => ?_
  rcases List.mem_cons.1 hp with rfl | hp
  · exact hlt
  · exact String.lt_trans hlt ((List.pairwise_cons.1 h).1 p hp)

end Dict

namespace Json

/-- The value is a scalar, an array, or an object whose members have the property. -/
theorem memberInduction {P : Json → Prop} (plain : ∀ v, v.isObject = false → P v)
    (object : ∀ d : Dict Json, (∀ p ∈ d, P p.2) → P (obj d)) (v : Json) : P v :=
  match v with
  | null => plain _ rfl
  | bool _ => plain _ rfl
  | num _ => plain _ rfl
  | str _ => plain _ rfl
  | arr _ => plain _ rfl
  | obj d => object d fun p _ => memberInduction plain object p.2
termination_by sizeOf v
decreasing_by
  rename_i hp
  have hlt : sizeOf p < sizeOf d := List.sizeOf_lt_of_mem hp
  have hp2 : sizeOf p.2 < sizeOf p := by cases p; simp +arith
  simp only [obj.sizeOf_spec]
  omega

theorem ordered_of_mem {d : Dict Json} (h : OrderedMembers d) {p : String × Json} (hp : p ∈ d) :
    p.2.Ordered := by
  induction d with
  | nil => simp at hp
  | cons q rest ih =>
    obtain ⟨hq, hr⟩ := h
    rcases List.mem_cons.1 hp with rfl | hp
    · exact hq
    · exact ih hr hp

theorem ordered_membersOrNone {v : Json} (h : v.Ordered) : Dict.Ordered v.membersOrNone := by
  cases v with
  | obj d => exact h.1
  | _ => exact List.Pairwise.nil

theorem ordered_member {v : Json} (h : v.Ordered) (key : String) :
    ((Dict.get? key v.membersOrNone).getD null).Ordered := by
  cases hk : Dict.get? key v.membersOrNone with
  | none => exact True.intro
  | some w =>
    cases v with
    | obj d => exact ordered_of_mem h.2 (Dict.mem_of_get? hk)
    | _ => cases hk

/-- Two objects are equal if they have equal values under every key. -/
theorem eqvMembers_of_get? {a b : Dict Json} (ha : a.Ordered) (hb : b.Ordered)
    (h : ∀ key, Option.Rel (fun v w => eqv v w = true) (Dict.get? key a) (Dict.get? key b)) :
    eqvMembers a b = true := by
  induction a generalizing b with
  | nil =>
    cases b with
    | nil => rfl
    | cons q b =>
      have hq := h q.1
      rw [Dict.get?, Dict.get?, if_pos rfl] at hq
      cases hq
  | cons p a ih =>
    obtain ⟨k, v⟩ := p
    have hk := h k
    rw [Dict.get?, if_pos rfl] at hk
    cases b with
    | nil => cases hk
    | cons q b =>
      obtain ⟨l, w⟩ := q
      have hl := h l
      -- of two unequal first keys the lower is in one of the objects only
      have heq : k = l := by
        refine String.le_antisymm (fun hlt => ?_) (fun hlt => ?_)
        · rw [Dict.get?_cons_of_lt ha hlt, Dict.get?, if_pos rfl] at hl
          cases hl
        · rw [Dict.get?_cons_of_lt hb hlt] at hk
          cases hk
      subst heq
      rw [Dict.get?, if_pos rfl] at hk
      have hv : eqv v w = true := by cases hk; assumption
      have hrest : eqvMembers a b = true := by
        refine ih (List.pairwise_cons.1 ha).2 (List.pairwise_cons.1 hb).2 fun key => ?_
        by_cases hkey : key = k
        · subst hkey
          rw [Dict.get?_head ha, Dict.get?_head hb]
          exact .none
        · simpa only [Dict.get?_cons_of_ne hkey] using h key
      simp [eqvMembers, hv, hrest]

/-! The members of the patch between two objects, and of the result of merging it. -/

theorem get?_changed {new : Dict Json} (hnew : new.Ordered) (old : Dict Json) (key : String) :
    Dict.get? key (changed old new) = (Dict.get? key new).bind fun v =>
      match Dict.get? key old with
      | none => some v
      | some o => diff o v := by
  induction new with
  | nil => rfl
  | cons p rest ih =>
    obtain ⟨k, v⟩ := p
    have ih := ih (List.pairwise_cons.1 hnew).2
    by_cases hk : key = k
    · subst hk
      have hrest : Dict.get? key (changed old rest) = none := by
        rw [ih, Dict.get?_head hnew, Option.bind_none]
      rw [Dict.get?, if_pos rfl, Option.bind_some, changed]
      cases Dict.get? key old with
      | none => exact if_pos rfl
      | some o =>
        cases hd : diff o v with
        | none => simpa only [hd] using hrest
        | some d => simp only [hd, Dict.get?, if_true]
    · rw [Dict.get?_cons_of_ne hk, ← ih, changed]
      split
      · exact Dict.get?_cons_of_ne hk _ _
      · split
        · rfl
        · exact Dict.get?_cons_of_ne hk _ _

theorem keys_changed (old new : Dict Json) :
    (Dict.keys (changed old new)).Sublist (Dict.keys new) := by
  induction new with
  | nil => exact List.Sublist.refl _
  | cons p rest ih =>
    obtain ⟨k, v⟩ := p
    rw [changed]
    split
    · exact ih.cons_cons k
    · split
      · exact ih.cons k
      · exact ih.cons_cons k

theorem removed_cons (k : String) (v : Json) (rest new patch : Dict Json) :
    removed ((k, v) :: rest) new patch =
      removed rest new (if Dict.contains k new then patch else Dict.insert k null patch) := rfl

theorem ordered_removed (old new : Dict Json) {patch : Dict Json} (h : patch.Ordered) :
    Dict.Ordered (removed old new patch) := by
  induction old generalizing patch with
  | nil => exact h
  | cons p rest ih =>
    obtain ⟨k, v⟩ := p
    rw [removed_cons]
    refine ih ?_
    split
    · exact h
    · exact Dict.ordered_insert h _ _

theorem get?_removed (old new patch : Dict Json) (key : String) :
    Dict.get? key (removed old new patch) =
      if Dict.contains key old ∧ ¬Dict.contains key new then some null
      else Dict.get? key patch := by
  induction old generalizing patch with
  | nil => simp [removed, Dict.contains]
  | cons p rest ih =>
    obtain ⟨k, v⟩ := p
    rw [removed_cons, ih]
    by_cases hk : key = k
    · subst hk
      have hc : Dict.contains key ((key, v) :: rest) = true := by simp [Dict.contains, Dict.get?]
      by_cases hn : Dict.contains key new = true
      · simp [hn]
      · simp [hn, hc]
    · have hc : Dict.contains key ((k, v) :: rest) = Dict.contains key rest := by
        rw [Dict.contains, Dict.get?_cons_of_ne hk, Dict.contains]
      have hp : Dict.get? key (if Dict.contains k new then patch else Dict.insert k null patch) =
          Dict.get? key patch := by
        split
        · rfl
        · exact Dict.get?_insert_of_ne hk _ _
      rw [hc, hp]

theorem ordered_mergeMembers {target : Dict Json} (h : target.Ordered)
    (patch : List (String × Json)) : Dict.Ordered (mergeMembers target patch) := by
  induction patch generalizing target with
  | nil => exact h
  | cons p rest ih =>
    obtain ⟨k, v⟩ := p
    by_cases hv : v = null
    · subst hv
      exact ih (Dict.ordered_erase h k)
    · rw [mergeMembers_cons target k hv]
      exact ih (Dict.ordered_insert h k _)

def mergedMember (member : Option Json) : Option Json → Option Json
  | none => member
  | some null => none
  | some patch => some (merge (member.getD null) patch)

theorem mergedMember_some (member : Option Json) {patch : Json} (h : patch ≠ null) :
    mergedMember member (some patch) = some (merge (member.getD null) patch) := by
  cases patch with
  | null => exact absurd rfl h
  | _ => rfl

theorem get?_mergeMembers {target patch : Dict Json} (ht : target.Ordered) (hp : patch.Ordered)
    (key : String) : Dict.get? key (mergeMembers target patch) =
      mergedMember (Dict.get? key target) (Dict.get? key patch) := by
  induction patch generalizing target with
  | nil => rfl
  | cons p rest ih =>
    obtain ⟨k, v⟩ := p
    have hrest : Dict.Ordered rest := (List.pairwise_cons.1 hp).2
    by_cases hk : key = k
    · -- none of the others has the key
      subst hk
      rw [Dict.get?, if_pos rfl]
      by_cases hv : v = null
      · subst hv
        rw [mergeMembers, ih (Dict.ordered_erase ht key) hrest, Dict.get?_head hp,
          Dict.get?_erase_self ht]
        rfl
      · rw [mergeMembers_cons target key hv, ih (Dict.ordered_insert ht key _) hrest,
          Dict.get?_head hp, Dict.get?_insert_self, mergedMember_some _ hv]
        rfl
    · rw [Dict.get?_cons_of_ne hk]
      by_cases hv : v = null
      · subst hv
        rw [mergeMembers, ih (Dict.ordered_erase ht k) hrest, Dict.get?_erase_of_ne hk]
      · rw [mergeMembers_cons target k hv, ih (Dict.ordered_insert ht k _) hrest,
          Dict.get?_insert_of_ne hk]

def patched (old new : Json) : Json :=
  match diff old new with
  | none => old
  | some patch => merge old patch

def memberPatch (old new : Dict Json) : Dict Json := removed old new (changed old new)

theorem ordered_memberPatch (old : Dict Json) {new : Dict Json} (h : new.Ordered) :
    Dict.Ordered (memberPatch old new) :=
  ordered_removed old new (Dict.ordered_of_keys (keys_changed old new) h)

theorem changed_nil (new : Dict Json) : changed [] new = new := by
  induction new with
  | nil => rfl
  | cons p rest ih =>
    rw [changed, Dict.get?_nil]
    exact congrArg (p :: ·) ih

/-- A value that is no object is patched as an empty one. -/
theorem patched_obj (old : Json) (new : Dict Json) : patched old (obj new) =
    obj (mergeMembers old.membersOrNone (memberPatch old.membersOrNone new)) := by
  cases old with
  | obj members =>
    rw [patched, diff]
    change (match (if (memberPatch members new).isEmpty then none
      else some (obj (memberPatch members new))) with
      | none => obj members
      | some patch => merge (obj members) patch) = _
    by_cases hp : (memberPatch members new).isEmpty
    · rw [if_pos hp, membersOrNone, List.isEmpty_iff.1 hp]
      rfl
    · rw [if_neg hp]
      rfl
  | _ =>
    change merge _ (obj new) = obj (mergeMembers [] (removed [] new (changed [] new)))
    rw [changed_nil]
    rfl

theorem diff_of_not_object {new : Json} (h : new.isObject = false) (old : Json) :
    diff old new = if old == new then none else some new := by
  cases new with
  | obj d => cases h
  | _ => rfl

theorem merge_of_not_object {patch : Json} (h : patch.isObject = false) (target : Json) :
    merge target patch = patch := by
  cases patch with
  | obj d => cases h
  | _ => rfl

theorem eqv_patched_of_not_object {new : Json} (h : new.isObject = false) (old : Json) :
    eqv (patched old new) new = true := by
  rw [patched, diff_of_not_object h]
  by_cases he : (old == new) = true
  · rw [if_pos he]
    exact he
  · rw [if_neg he]
    change eqv (merge old new) new = true
    rw [merge_of_not_object h]
    exact eqv_self new

/-! The members of the result. -/

theorem patched_null {v : Json} (h : v ≠ null) : patched null v = merge null v := by
  cases v with
  | null => exact absurd rfl h
  | _ => rfl

/-- Only a value that is null leads to a patch that is null. -/
theorem ne_null_of_diff {old new patch : Json} (hn : new ≠ null) (h : diff old new = some patch) :
    patch ≠ null := by
  rintro rfl
  cases hv : new.isObject with
  | false =>
    rw [diff_of_not_object hv] at h
    split at h
    · cases h
    · exact hn (Option.some.inj h)
  | true =>
    cases new with
    | obj members =>
      cases old with
      | obj old =>
        rw [diff] at h
        split at h <;> cases h
      | _ => cases h
    | _ => cases hv

section Members

variable {old : Json} {new : Dict Json} {key : String}

theorem get?_memberPatch (hnew : new.Ordered) (old : Dict Json) (key : String) :
    Dict.get? key (memberPatch old new) =
      match Dict.get? key new, Dict.get? key old with
      | none, none => none
      | none, some _ => some null
      | some v, none => some v
      | some v, some o => diff o v := by
  rw [memberPatch, get?_removed, get?_changed hnew]
  cases hn : Dict.get? key new <;> cases ho : Dict.get? key old <;>
    simp [Dict.contains, hn, ho]

/-- What there is under a key in the result, by what the second value has there: a member of its own
is patched, and one that is null may have gone. -/
inductive Outcome (member : Option Json) : Option Json → Option Json → Prop
  | absent : Outcome member none none
  | gone : Outcome member (some null) none
  | null : Outcome member (some null) (some null)
  | patched {v : Json} (hv : v ≠ Json.null) :
      Outcome member (some v) (some (patched (member.getD Json.null) v))

theorem outcome_patched (ho : old.Ordered) (hnew : new.Ordered) (key : String) :
    Outcome (Dict.get? key old.membersOrNone) (Dict.get? key new)
      ((patched old (obj new)).get? key) := by
  rw [patched_obj, get?, get?_mergeMembers (ordered_membersOrNone ho) (ordered_memberPatch _ hnew),
    get?_memberPatch hnew]
  generalize Dict.get? key old.membersOrNone = member
  cases Dict.get? key new with
  | none => cases member <;> exact .absent
  | some v =>
    by_cases hv : v = null
    · subst hv
      cases member with
      | none => exact .gone
      | some o =>
        cases o with
        | null => exact .null
        | _ => exact .gone
    · cases member with
      | none =>
        have hmerged : mergedMember none (some v) = some (patched null v) := by
          rw [mergedMember_some none hv, Option.getD_none, patched_null hv]
        exact hmerged ▸ .patched hv
      | some o =>
        have hmerged : mergedMember (some o) (diff o v) = some (patched o v) := by
          rw [patched]
          cases hd : diff o v with
          | none => rfl
          | some patch => exact mergedMember_some (some o) (ne_null_of_diff hv hd)
        exact hmerged ▸ .patched hv

end Members

/-! The second value as the result has it. -/

mutual

/-- The value without the members that are null, at every level that is not in an array. -/
def pruned : Json → Json
  | obj members => obj (prunedMembers members)
  | v => v

def prunedMembers : List (String × Json) → List (String × Json)
  | [] => []
  | (_, null) :: rest => prunedMembers rest
  | (k, v) :: rest => (k, pruned v) :: prunedMembers rest

end

def NullFree (v : Json) : Prop := ∀ key path, at? (key :: path) v ≠ some null

theorem NullFree.ne_null {d : Dict Json} (h : NullFree (obj d)) {key : String} {v : Json}
    (hv : Dict.get? key d = some v) : v ≠ null := by
  rintro rfl
  exact h key [] (by rw [at?, get?, hv]; rfl)

theorem NullFree.member {d : Dict Json} (h : NullFree (obj d)) {key : String} {v : Json}
    (hv : Dict.get? key d = some v) : NullFree v := by
  intro next path hn
  exact h key (next :: path) (by rw [at?, get?, hv]; exact hn)

theorem nullFree_of_not_object {v : Json} (h : v.isObject = false) : NullFree v := by
  intro key path hn
  cases v with
  | obj d => cases h
  | _ => cases hn

theorem nullFree_obj {d : Dict Json} (h : ∀ p ∈ d, p.2 ≠ null ∧ NullFree p.2) :
    NullFree (obj d) := by
  intro key path hn
  obtain ⟨v, hv, hpath⟩ := Option.bind_eq_some_iff.1 hn
  obtain ⟨hne, hfree⟩ := h _ (Dict.mem_of_get? hv)
  cases path with
  | nil => exact hne (Option.some.inj hpath)
  | cons next path => exact hfree next path hpath

theorem pruned_of_not_object {v : Json} (h : v.isObject = false) : pruned v = v := by
  cases v with
  | obj d => cases h
  | _ => rfl

theorem prunedMembers_cons (k : String) {v : Json} (hv : v ≠ null) (rest : List (String × Json)) :
    prunedMembers ((k, v) :: rest) = (k, pruned v) :: prunedMembers rest := by
  cases v with
  | null => exact absurd rfl hv
  | _ => rfl

theorem keys_prunedMembers (d : Dict Json) :
    (Dict.keys (prunedMembers d)).Sublist (Dict.keys d) := by
  induction d with
  | nil => exact List.Sublist.refl _
  | cons p rest ih =>
    obtain ⟨k, v⟩ := p
    by_cases hv : v = null
    · subst hv
      exact ih.cons k
    · rw [prunedMembers_cons k hv]
      exact ih.cons_cons k

def prunedMember : Option Json → Option Json
  | some null => none
  | m => m.map pruned

theorem prunedMember_some {v : Json} (h : v ≠ null) : prunedMember (some v) = some (pruned v) := by
  cases v with
  | null => exact absurd rfl h
  | _ => rfl

theorem get?_prunedMembers {d : Dict Json} (hd : d.Ordered) (key : String) :
    Dict.get? key (prunedMembers d) = prunedMember (Dict.get? key d) := by
  induction d with
  | nil => rfl
  | cons p rest ih =>
    obtain ⟨k, v⟩ := p
    have ih := ih (List.pairwise_cons.1 hd).2
    by_cases hv : v = null
    · subst hv
      rw [prunedMembers, ih]
      by_cases hk : key = k
      · subst hk
        rw [Dict.get?_head hd, Dict.get?, if_pos rfl]
        rfl
      · rw [Dict.get?_cons_of_ne hk]
    · rw [prunedMembers_cons k hv]
      by_cases hk : key = k
      · subst hk
        rw [Dict.get?, if_pos rfl, Dict.get?, if_pos rfl, prunedMember_some hv]
      · rw [Dict.get?_cons_of_ne hk, Dict.get?_cons_of_ne hk, ih]

theorem isObject_eq_of_eqv {v w : Json} (h : eqv v w = true) : v.isObject = w.isObject := by
  cases v <;> cases w <;> first | rfl | cases h

theorem patched_ne_null {new : Json} (h : new ≠ null) (old : Json) : patched old new ≠ null := by
  intro hp
  cases hv : new.isObject with
  | false =>
    have he : eqv null new = true := hp ▸ eqv_patched_of_not_object hv old
    cases new with
    | null => exact h rfl
    | _ => cases he
  | true =>
    cases new with
    | obj members =>
      rw [patched_obj] at hp
      cases hp
    | _ => cases hv

theorem exists_patched_obj {old : Json} (ho : old.Ordered) {new : Dict Json} (hnew : new.Ordered) :
    ∃ d : Dict Json, patched old (obj new) = obj d ∧ d.Ordered ∧ ∀ key,
      Outcome (Dict.get? key old.membersOrNone) (Dict.get? key new) (Dict.get? key d) := by
  refine ⟨_, patched_obj old new, ordered_mergeMembers (ordered_membersOrNone ho) _, fun key => ?_⟩
  have hk := outcome_patched ho hnew key
  rwa [patched_obj] at hk

theorem eqv_pruned_patched {old new : Json} (ho : old.Ordered) (hn : new.Ordered) :
    eqv (pruned (patched old new)) (pruned new) = true := by
  induction new using memberInduction generalizing old with
  | plain new h =>
    have he := eqv_patched_of_not_object h old
    rwa [pruned_of_not_object h, pruned_of_not_object ((isObject_eq_of_eqv he).trans h)]
  | object new ih =>
    obtain ⟨hnew, hmembers⟩ := hn
    obtain ⟨d, hd, hord, hkeys⟩ := exists_patched_obj ho hnew
    rw [hd]
    refine eqvMembers_of_get? (Dict.ordered_of_keys (keys_prunedMembers d) hord)
      (Dict.ordered_of_keys (keys_prunedMembers new) hnew) fun key => ?_
    rw [get?_prunedMembers hord, get?_prunedMembers hnew]
    have hk := hkeys key
    generalize Dict.get? key d = result at hk ⊢
    generalize hv : Dict.get? key new = target at hk ⊢
    cases hk with
    | absent => exact .none
    | gone => exact .none
    | null => exact .none
    | patched hne =>
      have hmem := Dict.mem_of_get? hv
      rw [prunedMember_some (patched_ne_null hne _), prunedMember_some hne]
      exact .some (ih _ hmem (ordered_member ho key) (ordered_of_mem hmembers hmem))

theorem eqv_patched_of_nullFree {old new : Json} (ho : old.Ordered) (hn : new.Ordered)
    (hfree : NullFree new) : eqv (patched old new) new = true := by
  induction new using memberInduction generalizing old with
  | plain new h => exact eqv_patched_of_not_object h old
  | object new ih =>
    obtain ⟨hnew, hmembers⟩ := hn
    obtain ⟨d, hd, hord, hkeys⟩ := exists_patched_obj ho hnew
    rw [hd]
    refine eqvMembers_of_get? hord hnew fun key => ?_
    have hk := hkeys key
    generalize Dict.get? key d = result at hk ⊢
    generalize hv : Dict.get? key new = target at hk ⊢
    cases hk with
    | absent => exact .none
    | gone => exact absurd rfl (hfree.ne_null hv)
    | null => exact absurd rfl (hfree.ne_null hv)
    | patched =>
      have hmem := Dict.mem_of_get? hv
      exact .some (ih _ hmem (ordered_member ho key) (ordered_of_mem hmembers hmem)
        (hfree.member hv))

/-- The result has the arrays of the second value where that has them. -/
theorem at?_patched_arr {old new : Json} (ho : old.Ordered) (hn : new.Ordered)
    {path : List String} {items : List Json} (h : at? path new = some (arr items)) :
    ∃ kept, at? path (patched old new) = some (arr kept) ∧ eqvItems kept items = true := by
  induction path generalizing old new with
  | nil =>
    obtain rfl : new = arr items := Option.some.inj h
    have he : eqv (patched old (arr items)) (arr items) = true := eqv_patched_of_not_object rfl old
    cases hp : patched old (arr items) with
    | arr kept => exact ⟨kept, rfl, by rw [hp] at he; exact he⟩
    | _ => rw [hp] at he; cases he
  | cons key path ih =>
    cases new with
    | obj new =>
      obtain ⟨hnew, hmembers⟩ := hn
      obtain ⟨v, hkey, hv⟩ := Option.bind_eq_some_iff.1 h
      obtain ⟨kept, hk, he⟩ := ih (ordered_member ho key)
        (ordered_of_mem hmembers (Dict.mem_of_get? hkey)) hv
      have hout := outcome_patched ho hnew key
      rw [show Dict.get? key new = some v from hkey] at hout
      refine ⟨kept, ?_, he⟩
      rw [at?]
      generalize (patched old (obj new)).get? key = result at hout ⊢
      cases hout with
      | patched => exact hk
      | _ => cases path <;> cases hv
    | _ => cases h

/-- Merging the difference of two values into the first leads to the second, up to members that are
null; and to a value equal to the second if that has none of these. -/
theorem patched_reaches {old new : Json} (ho : old.Ordered) (hn : new.Ordered) :
    (pruned (patched old new) == pruned new) = true ∧
      (NullFree new → (patched old new == new) = true) ∧
      ∀ path items, at? path new = some (arr items) →
        ∃ kept, at? path (patched old new) = some (arr kept) ∧ (arr kept == arr items) = true :=
  ⟨eqv_pruned_patched ho hn, eqv_patched_of_nullFree ho hn, fun _ _ => at?_patched_arr ho hn⟩

/-- A member goes, one turns from text into an object, and one with a null in it into an array. -/
theorem patched_reaches_pond :
    let old := obj [("depth", obj [("max", null)]), ("name", str "pond"), ("owner", str "u-1")]
    let new := obj [("depth", arr [null, int 3]), ("owner", obj [("uid", str "u-1")])]
    (pruned (patched old new) == pruned new) = true ∧ (patched old new == new) = true ∧
      ∃ kept, at? ["depth"] (patched old new) = some (arr kept) ∧
        (arr kept == arr [null, int 3]) = true := by
  intro old new
  have holdKeys : ["depth", "name", "owner"].Pairwise (· < ·) := by decide
  have hnewKeys : ["depth", "owner"].Pairwise (· < ·) := by decide
  have ho : old.Ordered := ⟨Dict.ordered_iff_keys.2 holdKeys,
    ⟨List.pairwise_singleton _ _, True.intro, True.intro⟩, True.intro, True.intro, True.intro⟩
  have hn : new.Ordered := ⟨Dict.ordered_iff_keys.2 hnewKeys, ⟨True.intro, True.intro, True.intro⟩,
    ⟨List.pairwise_singleton _ _, True.intro, True.intro⟩, True.intro⟩
  have hfree : NullFree new := by
    refine nullFree_obj fun p hp => ?_
    rcases List.mem_cons.1 hp with rfl | hp
    · exact ⟨nofun, nullFree_of_not_object rfl⟩
    · rw [List.mem_singleton.1 hp]
      refine ⟨nofun, nullFree_obj fun q hq => ?_⟩
      rw [List.mem_singleton.1 hq]
      exact ⟨nofun, nullFree_of_not_object rfl⟩
  obtain ⟨hpruned, hexact, harr⟩ := patched_reaches ho hn
  exact ⟨hpruned, hexact hfree, harr ["depth"] [null, int 3] rfl⟩

end Json

end ClusterImport
