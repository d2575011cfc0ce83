/-!
Dictionaries with text keys, as lists of pairs in ascending order of the keys. Order is by code
point, so equal dictionaries are equal lists. Where a dictionary is part of a larger value, the
order is part of its type.
-/
namespace ClusterImport

abbrev Dict (α : Type) := List (String × α)

namespace Dict

variable {α : Type}

def get? (key : String) : Dict α → Option α
  | [] => none
  | (k, v) :: rest => if k = key then some v else get? key rest

def contains (key : String) (d : Dict α) : Bool := (get? key d).isSome

def insert (key : String) (value : α) : Dict α → Dict α
  | [] => [(key, value)]
  | (k, v) :: rest =>
    if key = k then (key, value) :: rest
    else if key < k then (key, value) :: (k, v) :: rest
    else (k, v) :: insert key value rest

def erase (key : String) : Dict α → Dict α
  | [] => []
  | (k, v) :: rest => if k = key then rest else (k, v) :: erase key rest

/-- Of two values with one key the later stays. -/
def ofList (pairs : List (String × α)) : Dict α :=
  pairs.foldl (fun d (k, v) => insert k v d) []

def keys (d : Dict α) : List String := d.map (·.1)

def Ordered (d : Dict α) : Prop := d.Pairwise (·.1 < ·.1)

@[simp] theorem get?_nil (key : String) : get? key ([] : Dict α) = none := rfl

@[simp] theorem get?_insert_self (key : String) (value : α) (d : Dict α) :
    get? key (insert key value d) = some value := by
  induction d with
  | nil => simp [insert, get?]
  | cons p rest ih =>
    simp only [insert]
    split
    · simp [get?]
    · rename_i h
      split
      · simp [get?]
      · simp [get?, Ne.symm h, ih]

theorem get?_insert_of_ne {key other : String} (h : other ≠ key) (value : α) (d : Dict α) :
    get? other (insert key value d) = get? other d := by
  induction d with
  | nil => simp [insert, get?, Ne.symm h]
  | cons p rest ih =>
    simp only [insert]
    split
    · rename_i hk
      simp [get?, ← hk, Ne.symm h]
    · split
      · simp [get?, Ne.symm h]
      · simp [get?, ih]

theorem get?_erase_of_ne {key other : String} (h : other ≠ key) (d : Dict α) :
    get? other (erase key d) = get? other d := by
  induction d with
  | nil => rfl
  | cons p rest ih =>
    simp only [erase]
    split
    · rename_i hk
      simp [get?, hk, Ne.symm h]
    · simp [get?, ih]

theorem get?_eq_none_of_lt {key : String} {d : Dict α} (h : ∀ p ∈ d, key < p.1) :
    get? key d = none := by
  induction d with
  | nil => rfl
  | cons p rest ih =>
    have hp : key < p.1 := h p (by simp)
    have hne : p.1 ≠ key := fun e => String.lt_irrefl key (e ▸ hp)
    simp only [get?, hne, if_false]
    exact ih fun q hq => h q (by simp [hq])

theorem get?_erase_self {d : Dict α} (h : d.Ordered) (key : String) :
    get? key (erase key d) = none := by
  induction d with
  | nil => rfl
  | cons p rest ih =>
    obtain ⟨hp, hr⟩ := List.pairwise_cons.1 h
    simp only [erase]
    split
    · rename_i hk
      exact get?_eq_none_of_lt fun q hq => hk ▸ hp q hq
    · rename_i hk
      simp [get?, hk, ih hr]

theorem mem_insert {key : String} {value : α} {d : Dict α} {p : String × α}
    (h : p ∈ insert key value d) : p = (key, value) ∨ p ∈ d := by
  induction d with
  | nil => simpa [insert] using h
  | cons q rest ih =>
    simp only [insert] at h
    split at h
    · rcases List.mem_cons.1 h with h | h
      · exact .inl h
      · exact .inr (by simp [h])
    · split at h
      · rcases List.mem_cons.1 h with h | h
        · exact .inl h
        · exact .inr h
      · rcases List.mem_cons.1 h with h | h
        · exact .inr (by simp [h])
        · rcases ih h with h | h
          · exact .inl h
          · exact .inr (by simp [h])

theorem ordered_insert {d : Dict α} (h : d.Ordered) (key : String) (value : α) :
    (insert key value d).Ordered := by
  induction d with
  | nil => exact List.pairwise_singleton _ _
  | cons p rest ih =>
    obtain ⟨hp, hr⟩ := List.pairwise_cons.1 h
    simp only [insert]
    split
    · rename_i hk
      exact List.pairwise_cons.2 ⟨fun q hq => hk ▸ hp q hq, hr⟩
    · rename_i hne
      split
      · rename_i hlt
        refine List.pairwise_cons.2 ⟨fun q hq => ?_, h⟩
        rcases List.mem_cons.1 hq with rfl | hq
        · exact hlt
        · exact String.lt_trans hlt (hp q hq)
      · rename_i hle
        refine List.pairwise_cons.2 ⟨fun q hq => ?_, ih hr⟩
        rcases mem_insert hq with rfl | hq
        · exact Decidable.not_not.1 fun hgt => hne (String.le_antisymm hgt hle)
        · exact hp q hq

theorem ordered_ofList (pairs : List (String × α)) : (ofList pairs).Ordered := by
  have h : ∀ (pairs : List (String × α)) (d : Dict α), d.Ordered →
      (pairs.foldl (fun d (k, v) => insert k v d) d).Ordered := by
    intro pairs
    induction pairs with
    | nil => exact fun d hd => hd
    | cons p rest ih => exact fun d hd => ih _ (ordered_insert hd p.1 p.2)
  exact h pairs [] List.Pairwise.nil

theorem mem_of_get? {key : String} {value : α} {d : Dict α} (h : get? key d = some value) :
    (key, value) ∈ d := by
  induction d with
  | nil => simp at h
  | cons p rest ih =>
    simp only [get?] at h
    split at h
    · rename_i hk
      obtain rfl : p.2 = value := Option.some.inj h
      simp [← hk]
    · exact List.mem_cons_of_mem p (ih h)

theorem get?_of_mem {d : Dict α} (hd : d.Ordered) {p : String × α} (h : p ∈ d) :
    get? p.1 d = some p.2 := by
  induction d with
  | nil => simp at h
  | cons q rest ih =>
    obtain ⟨hq, hr⟩ := List.pairwise_cons.1 hd
    rcases List.mem_cons.1 h with rfl | h
    · simp [get?]
    · have hne : q.1 ≠ p.1 := fun e => String.lt_irrefl _ (e ▸ hq p h)
      simp [get?, hne, ih hr h]

theorem contains_of_mem {d : Dict α} {p : String × α} (h : p ∈ d) : contains p.1 d = true := by
  induction d with
  | nil => simp at h
  | cons q rest ih =>
    by_cases hq : q.1 = p.1
    · simp [contains, get?, hq]
    · have hp : p ≠ q := fun e => hq (e ▸ rfl)
      simpa [contains, get?, hq] using ih ((List.mem_cons.1 h).resolve_left hp)

theorem insert_of_lt {key : String} {d : Dict α} (h : ∀ p ∈ d, key < p.1) (value : α) :
    insert key value d = (key, value) :: d := by
  cases d with
  | nil => rfl
  | cons p rest =>
    have hp : key < p.1 := h p (by simp)
    have hne : key ≠ p.1 := fun e => String.lt_irrefl _ (e ▸ hp)
    simp [insert, hne, hp]

theorem insert_eq_append_cons (key : String) (value : α) (d : Dict α) :
    ∃ before after, insert key value d = before ++ (key, value) :: after ∧
      ∀ p ∈ before ++ after, p ∈ d := by
  induction d with
  | nil => exact ⟨[], [], rfl, by simp⟩
  | cons q rest ih =>
    simp only [insert]
    split
    · exact ⟨[], rest, rfl, fun p hp => List.mem_cons_of_mem q hp⟩
    · split
      · exact ⟨[], q :: rest, rfl, fun p hp => hp⟩
      · obtain ⟨before, after, h, hmem⟩ := ih
        refine ⟨q :: before, after, by rw [h]; rfl, fun p hp => ?_⟩
        rcases List.mem_cons.1 hp with rfl | hp
        · simp
        · exact List.mem_cons_of_mem q (hmem p hp)

/-- What is there already is not changed by being put there. -/
theorem insert_eq_self {key : String} {value : α} {d : Dict α} (hd : d.Ordered)
    (h : get? key d = some value) : insert key value d = d := by
  induction d with
  | nil => simp at h
  | cons q rest ih =>
    obtain ⟨hq, hr⟩ := List.pairwise_cons.1 hd
    by_cases hk : q.1 = key
    · have hv : q.2 = value := by simpa [get?, hk] using h
      simp [insert, ← hk, ← hv]
    · have hrest : get? key rest = some value := by simpa [get?, hk] using h
      have hlt : ¬ key < q.1 := fun hlt =>
        String.lt_irrefl _ (String.lt_trans hlt (hq _ (mem_of_get? hrest)))
      simp [insert, Ne.symm hk, hlt, ih hr hrest]

theorem ordered_iff_keys {d : Dict α} : d.Ordered ↔ d.keys.Pairwise (· < ·) := by
  simp [Ordered, keys, List.pairwise_map]

end Dict

structure OrderedDict (α : Type) where
  entries : Dict α
  ordered : entries.Ordered
deriving Repr

namespace OrderedDict

variable {α : Type}

def empty : OrderedDict α := ⟨[], List.Pairwise.nil⟩

def single (key : String) (value : α) : OrderedDict α :=
  ⟨[(key, value)], List.pairwise_singleton _ _⟩

def ofList (pairs : List (String × α)) : OrderedDict α :=
  ⟨Dict.ofList pairs, Dict.ordered_ofList pairs⟩

def get? (key : String) (d : OrderedDict α) : Option α := Dict.get? key d.entries

def insert (key : String) (value : α) (d : OrderedDict α) : OrderedDict α :=
  ⟨Dict.insert key value d.entries, Dict.ordered_insert d.ordered key value⟩

end OrderedDict

end ClusterImport
