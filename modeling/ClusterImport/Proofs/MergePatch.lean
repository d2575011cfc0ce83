import ClusterImport.Json.MergePatch
/-!
Differences of JSON values. A value does not differ from itself as long as the members of its
objects stand in order, and an object differs from the same object with one member put in by just
that member.
-/
namespace ClusterImport.Json

theorem number_eqv_self (n : Number) : n.eqv n = true := by
  cases n with
  | int a => simp [Number.eqv]
  | float x => simp [Number.eqv, Binary64.eqv]

mutual

theorem eqv_self (v : Json) : eqv v v = true := by
  cases v with
  | null => rfl
  | bool b => simp [eqv]
  | num n => simp [eqv, number_eqv_self]
  | str s => simp [eqv]
  | arr items => simpa [eqv] using eqvItems_self items
  | obj members => simpa [eqv] using eqvMembers_self members

theorem eqvItems_self (items : List Json) : eqvItems items items = true := by
  cases items with
  | nil => rfl
  | cons v rest => simp [eqvItems, eqv_self v, eqvItems_self rest]

theorem eqvMembers_self (members : List (String × Json)) : eqvMembers members members = true := by
  cases members with
  | nil => rfl
  | cons p rest =>
    obtain ⟨k, v⟩ := p
    simp [eqvMembers, eqv_self v, eqvMembers_self rest]

end

theorem beq_self (v : Json) : (v == v) = true := eqv_self v

def isObject : Json → Bool
  | obj _ => true
  | _ => false

theorem diff_self_of_not_object {v : Json} (h : v.isObject = false) : diff v v = none := by
  cases v with
  | obj members => simp [isObject] at h
  | _ => simp [diff, beq_self]

theorem changed_append (old : Dict Json) (first second : List (String × Json)) :
    changed old (first ++ second) = changed old first ++ changed old second := by
  induction first with
  | nil => rfl
  | cons p rest ih =>
    obtain ⟨k, v⟩ := p
    simp only [List.cons_append, changed]
    split
    · simp [ih]
    · split <;> simp [ih]

/-- Members that the old object has with equal values are left out. -/
theorem changed_eq_nil {old : Dict Json} {new : List (String × Json)}
    (h : ∀ p ∈ new, ∃ o, Dict.get? p.1 old = some o ∧ diff o p.2 = none) :
    changed old new = [] := by
  induction new with
  | nil => rfl
  | cons p rest ih =>
    obtain ⟨o, ho, hd⟩ := h p (by simp)
    have hr := ih fun q hq => h q (List.mem_cons_of_mem p hq)
    simp [changed, ho, hd, hr]

theorem removed_eq_self {old new : Dict Json} (patch : Dict Json)
    (h : ∀ p ∈ old, Dict.contains p.1 new = true) : removed old new patch = patch := by
  induction old with
  | nil => rfl
  | cons p rest ih =>
    have hp := h p (by simp)
    have hr := ih fun q hq => h q (List.mem_cons_of_mem p hq)
    simpa [removed, hp] using hr

theorem diff_obj_self {d : Dict Json} (hd : d.Ordered) (h : ∀ p ∈ d, diff p.2 p.2 = none) :
    diff (obj d) (obj d) = none := by
  have hc : changed d d = [] :=
    changed_eq_nil fun p hp => ⟨p.2, Dict.get?_of_mem hd hp, h p hp⟩
  have hr : removed d d [] = [] := removed_eq_self [] fun p hp => Dict.contains_of_mem hp
  simp [diff, hc, hr]

def memberDiff (key : String) (value : Json) (d : Dict Json) : Option Json :=
  match Dict.get? key d with
  | none => some (obj [(key, value)])
  | some old => (diff old value).map fun p => obj [(key, p)]

theorem diff_insert {d : Dict Json} (hd : d.Ordered) (h : ∀ p ∈ d, diff p.2 p.2 = none)
    (key : String) (value : Json) :
    diff (obj d) (obj (Dict.insert key value d)) = memberDiff key value d := by
  have hr (patch : Dict Json) : removed d (Dict.insert key value d) patch = patch := by
    refine removed_eq_self patch fun p hp => ?_
    by_cases hk : p.1 = key
    · simp [Dict.contains, hk]
    · simpa [Dict.contains, Dict.get?_insert_of_ne hk] using Dict.contains_of_mem hp
  obtain ⟨before, after, hi, hmem⟩ := Dict.insert_eq_append_cons key value d
  -- only the member put in can differ, all around it are members of `d`
  have hsame {ms : List (String × Json)} (hms : ∀ p ∈ ms, p ∈ d) : changed d ms = [] :=
    changed_eq_nil fun p hp => ⟨p.2, Dict.get?_of_mem hd (hms p hp), h p (hms p hp)⟩
  have hb : changed d before = [] := hsame fun p hp => hmem p (by simp [hp])
  have ha : changed d after = [] := hsame fun p hp => hmem p (by simp [hp])
  have hc : changed d (Dict.insert key value d) = changed d [(key, value)] := by
    rw [hi, changed_append, hb, ← List.singleton_append, changed_append, ha]
    simp
  simp only [diff, hr, hc, changed, memberDiff]
  cases Dict.get? key d with
  | none => simp
  | some old => cases hdiff : diff old value <;> simp [hdiff]

theorem merge_obj (target : Json) (patch : List (String × Json)) :
    merge target (obj patch) = obj (mergeMembers target.membersOrNone patch) := rfl

theorem mergeMembers_obj (target : Dict Json) (key : String) (patch rest : List (String × Json)) :
    mergeMembers target ((key, obj patch) :: rest) = mergeMembers
      (Dict.insert key (merge ((Dict.get? key target).getD null) (obj patch)) target) rest := rfl

theorem mergeMembers_str (target : Dict Json) (key value : String) (rest : List (String × Json)) :
    mergeMembers target ((key, str value) :: rest) =
      mergeMembers (Dict.insert key (str value) target) rest := rfl

end ClusterImport.Json
