import ClusterImport.Proofs.PatchTarget
/-!
Differences of JSON values are exact. Equal values have none, and the difference of two objects has
just the keys at which they differ: null for a member that goes, the whole value of a new one, and
for a member of both the difference of its values, so that at no depth there is a member that both
sides have alike.
-/
namespace ClusterImport

namespace Dict

variable {α : Type}

theorem eq_nil_of_get? {d : Dict α} (h : ∀ key, get? key d = none) : d = [] := by
  cases d with
  | nil => rfl
  | cons p rest =>
    have hp := h p.1
    rw [get?, if_pos rfl] at hp
    cases hp

end Dict

namespace Json

/-- Equal objects have equal values under every key. -/
theorem get?_of_eqvMembers {a b : Dict Json} (h : eqvMembers a b = true) (key : String) :
    Option.Rel (fun v w => eqv v w = true) (Dict.get? key a) (Dict.get? key b) := by
  induction a generalizing b with
  | nil =>
    cases b with
    | nil => exact .none
    | cons q b => cases h
  | cons p a ih =>
    obtain ⟨k, v⟩ := p
    cases b with
    | nil => cases h
    | cons q b =>
      obtain ⟨l, w⟩ := q
      simp only [eqvMembers, Bool.and_eq_true, beq_iff_eq] at h
      obtain ⟨⟨rfl, hv⟩, hrest⟩ := h
      simp only [Dict.get?]
      split
      · exact .some hv
      · exact ih hrest

theorem diff_obj_obj (old new : Dict Json) :
    diff (obj old) (obj new) =
      if (memberPatch old new).isEmpty then none else some (obj (memberPatch old new)) := rfl

theorem diff_obj_of_not_object {old : Json} (h : old.isObject = false) (new : Dict Json) :
    diff old (obj new) = some (obj new) := by
  cases old with
  | obj d => cases h
  | _ => rfl

theorem eqv_obj_of_not_object {old : Json} (h : old.isObject = false) (new : Dict Json) :
    eqv old (obj new) = false := by
  cases old with
  | obj d => cases h
  | _ => rfl

def Differ : Option Json → Option Json → Prop
  | none, none => False
  | some v, some w => (v == w) = false
  | _, _ => True

theorem not_differ_self (o : Option Json) : ¬Differ o o := by
  cases o with
  | none => exact id
  | some v => exact fun h => Bool.noConfusion ((beq_self v).symm.trans h)

theorem eqvMembers_iff {a b : Dict Json} (ha : a.Ordered) (hb : b.Ordered) :
    eqvMembers a b = true ↔ ∀ key, ¬Differ (Dict.get? key a) (Dict.get? key b) := by
  constructor
  · intro h key
    have hk := get?_of_eqvMembers h key
    generalize Dict.get? key a = v at hk ⊢
    generalize Dict.get? key b = w at hk ⊢
    cases hk with
    | none => exact id
    | some he =>
      intro hd
      exact Bool.noConfusion (he.symm.trans hd)
  · intro h
    refine eqvMembers_of_get? ha hb fun key => ?_
    have hk := h key
    generalize Dict.get? key a = v at hk ⊢
    generalize Dict.get? key b = w at hk ⊢
    match v, w with
    | none, none => exact .none
    | some v, some w => exact .some (Bool.of_not_eq_false hk)
    | none, some w => exact absurd trivial hk
    | some v, none => exact absurd trivial hk

/-- A key is missing from the patch of two objects if they have it alike. -/
theorem get?_memberPatch_eq_none_iff {old new : Dict Json} (hnew : new.Ordered) (key : String)
    (h : ∀ v w, Dict.get? key old = some v → Dict.get? key new = some w →
      (diff v w = none ↔ (v == w) = true)) :
    Dict.get? key (memberPatch old new) = none ↔
      ¬Differ (Dict.get? key old) (Dict.get? key new) := by
  rw [get?_memberPatch hnew]
  generalize Dict.get? key old = v at h ⊢
  generalize Dict.get? key new = w at h ⊢
  match v, w with
  | none, none => simp [Differ]
  | none, some w => simp [Differ]
  | some v, none => simp [Differ]
  | some v, some w => simpa [Differ] using h v w rfl rfl

theorem diff_eq_none_of_not_object {new : Json} (h : new.isObject = false) (old : Json) :
    diff old new = none ↔ (old == new) = true := by
  rw [diff_of_not_object h]
  split <;> simp [*]

/-- Two objects have no difference if they are equal, provided that this holds of their members. -/
theorem diff_obj_eq_none_iff {old new : Dict Json} (ho : old.Ordered) (hn : new.Ordered)
    (h : ∀ key v w, Dict.get? key old = some v → Dict.get? key new = some w →
      (diff v w = none ↔ (v == w) = true)) :
    diff (obj old) (obj new) = none ↔ (obj old == obj new) = true := by
  have hkey (key : String) := get?_memberPatch_eq_none_iff hn key (h key)
  have hnil : memberPatch old new = [] ↔ eqvMembers old new = true := by
    rw [eqvMembers_iff ho hn]
    constructor
    · intro hp key
      rw [← hkey, hp, Dict.get?_nil]
    · exact fun hp => Dict.eq_nil_of_get? fun key => (hkey key).2 (hp key)
  change _ ↔ eqvMembers old new = true
  rw [← hnil, diff_obj_obj]
  simp

theorem diff_eq_none_iff {old new : Json} (ho : old.Ordered) (hn : new.Ordered) :
    diff old new = none ↔ (old == new) = true := by
  induction new using memberInduction generalizing old with
  | plain new h => exact diff_eq_none_of_not_object h old
  | object new ih =>
    cases hv : old.isObject with
    | false =>
      rw [diff_obj_of_not_object hv]
      have he : (old == obj new) = false := eqv_obj_of_not_object hv new
      simp [he]
    | true =>
      cases old with
      | obj old =>
        exact diff_obj_eq_none_iff ho.1 hn.1 fun key v w hv hw =>
          ih (key, w) (Dict.mem_of_get? hw) (ordered_of_mem ho.2 (Dict.mem_of_get? hv))
            (ordered_of_mem hn.2 (Dict.mem_of_get? hw))
      | _ => cases hv

/-- What the patch between two objects has under every key. -/
structure IsMemberPatch (old new patch : Dict Json) : Prop where
  ordered : patch.Ordered
  keys : ∀ key, Dict.contains key patch = true ↔ Differ (Dict.get? key old) (Dict.get? key new)
  removed : ∀ key v, Dict.get? key old = some v → Dict.get? key new = none →
    Dict.get? key patch = some null
  added : ∀ key w, Dict.get? key old = none → Dict.get? key new = some w →
    Dict.get? key patch = some w
  changed : ∀ key v w, Dict.get? key old = some v → Dict.get? key new = some w →
    Dict.get? key patch = diff v w

theorem isMemberPatch_memberPatch {old new : Dict Json} (ho : (obj old).Ordered)
    (hn : (obj new).Ordered) : IsMemberPatch old new (memberPatch old new) where
  ordered := ordered_memberPatch old hn.1
  keys key := by
    have hk := get?_memberPatch_eq_none_iff hn.1 key fun v w hv hw =>
      diff_eq_none_iff (ordered_of_mem ho.2 (Dict.mem_of_get? hv))
        (ordered_of_mem hn.2 (Dict.mem_of_get? hw))
    rw [Dict.contains, Option.isSome_iff_ne_none, Ne, hk, Classical.not_not]
  removed key v hv hw := by rw [get?_memberPatch hn.1, hv, hw]
  added key w hv hw := by rw [get?_memberPatch hn.1, hv, hw]
  changed key v w hv hw := by rw [get?_memberPatch hn.1, hv, hw]

/-- Where both values lead on, so does their difference: to the difference of what is there. -/
theorem at?_diff {old new : Json} (hn : new.Ordered) {path : List String} {v w : Json}
    (hv : at? path old = some v) (hw : at? path new = some w) :
    (diff old new).bind (at? path) = diff v w := by
  induction path generalizing old new with
  | nil =>
    obtain rfl : old = v := Option.some.inj hv
    obtain rfl : new = w := Option.some.inj hw
    exact Option.bind_fun_some _
  | cons key rest ih =>
    obtain ⟨a, ha, hav⟩ := Option.bind_eq_some_iff.1 hv
    obtain ⟨b, hb, hbw⟩ := Option.bind_eq_some_iff.1 hw
    cases old with
    | obj old =>
      cases new with
      | obj new =>
        rw [get?] at ha hb
        have hkey : Dict.get? key (memberPatch old new) = diff a b := by
          rw [get?_memberPatch hn.1, ha, hb]
        rw [← ih (ordered_of_mem hn.2 (Dict.mem_of_get? hb)) hav hbw, ← hkey, diff_obj_obj]
        split
        · rename_i hp
          rw [List.isEmpty_iff.1 hp]
          rfl
        · rfl
      | _ => cases hb
    | _ => cases ha

theorem diff_of_not_both_objects {v w : Json} (h : (v.isObject && w.isObject) = false)
    (hd : (v == w) = false) : diff v w = some w := by
  cases hw : w.isObject with
  | false => rw [diff_of_not_object hw, hd, if_neg Bool.false_ne_true]
  | true =>
    have hv : v.isObject = false := by simpa [hw] using h
    cases w with
    | obj members => exact diff_obj_of_not_object hv members
    | _ => cases hw

theorem ordered_at? {v : Json} (h : v.Ordered) {path : List String} {w : Json}
    (hw : at? path v = some w) : w.Ordered := by
  induction path generalizing v with
  | nil =>
    obtain rfl : v = w := Option.some.inj hw
    exact h
  | cons key rest ih =>
    obtain ⟨a, ha, haw⟩ := Option.bind_eq_some_iff.1 hw
    cases v with
    | obj members => exact ih (ordered_of_mem h.2 (Dict.mem_of_get? ha)) haw
    | _ => cases ha

/-- Two values have no difference just if they are equal. At every path that leads on in both, their
difference has nothing if the values there are equal, the patch of the members if both are objects,
and else the second value as a whole. -/
theorem diff_exact {old new : Json} (ho : old.Ordered) (hn : new.Ordered) :
    (diff old new = none ↔ (old == new) = true) ∧
      ∀ path v w, at? path old = some v → at? path new = some w →
        ((diff old new).bind (at? path) = none ↔ (v == w) = true) ∧
        (∀ o n, v = obj o → w = obj n → (v == w) = false →
          ∃ patch, (diff old new).bind (at? path) = some (obj patch) ∧ IsMemberPatch o n patch) ∧
        ((v.isObject && w.isObject) = false → (v == w) = false →
          (diff old new).bind (at? path) = some w) := by
  refine ⟨diff_eq_none_iff ho hn, fun path v w hv hw => ?_⟩
  have hvo := ordered_at? ho hv
  have hwo := ordered_at? hn hw
  rw [at?_diff hn hv hw]
  refine ⟨diff_eq_none_iff hvo hwo, ?_, diff_of_not_both_objects⟩
  rintro o n rfl rfl hd
  have hne : ¬diff (obj o) (obj n) = none := by simp [diff_eq_none_iff hvo hwo, hd]
  refine ⟨memberPatch o n, ?_, isMemberPatch_memberPatch hvo hwo⟩
  rw [diff_obj_obj, ite_eq_left_iff, Classical.not_imp] at hne
  rw [diff_obj_obj, if_neg hne.1]

/-- The depth turns from an integer into the same number with a fraction, the owner stays. -/
theorem diff_exact_pond :
    let old := obj [("lake", obj [("depth", int 3), ("owner", obj [("uid", str "u-1")])]),
      ("name", str "pond")]
    let new := obj [("lake", obj [("depth", num (.float ⟨false, 3 * Nat.pow 2 51, -51⟩)),
      ("owner", obj [("uid", str "u-1")])])]
    (diff old new = none ↔ (old == new) = true) ∧
      (diff old new).bind (at? ["lake", "owner"]) = none ∧
      (diff old new).bind (at? ["lake", "depth"]) =
        some (num (.float ⟨false, 3 * Nat.pow 2 51, -51⟩)) ∧
      ∃ patch, (diff old new).bind (at? []) = some (obj patch) ∧
        Dict.get? "name" patch = some null := by
  intro old new
  have hlake : ["depth", "owner"].Pairwise (· < ·) := by decide
  have hroot : ["lake", "name"].Pairwise (· < ·) := by decide
  have howner : Dict.Ordered [("uid", str "u-1")] := List.pairwise_singleton _ _
  have ho : old.Ordered := ⟨Dict.ordered_iff_keys.2 hroot, ⟨Dict.ordered_iff_keys.2 hlake,
    True.intro, ⟨howner, True.intro, True.intro⟩, True.intro⟩, True.intro, True.intro⟩
  have hn : new.Ordered := ⟨List.pairwise_singleton _ _, ⟨Dict.ordered_iff_keys.2 hlake,
    True.intro, ⟨howner, True.intro, True.intro⟩, True.intro⟩, True.intro⟩
  obtain ⟨hnone, hpaths⟩ := diff_exact ho hn
  obtain ⟨-, hobjects, -⟩ := hpaths [] old new rfl rfl
  obtain ⟨patch, hpatch, hmembers⟩ := hobjects _ _ rfl rfl rfl
  exact ⟨hnone, (hpaths ["lake", "owner"] _ _ rfl rfl).1.2 rfl,
    (hpaths ["lake", "depth"] _ _ rfl rfl).2.2 rfl rfl, patch, hpatch,
    hmembers.removed "name" _ rfl rfl⟩

end Json

end ClusterImport
