import ClusterImport.Proofs.Overlay
import ClusterImport.Proofs.ReadBack
/-!
Typed values over JSON. A codec reads a value and writes it, and what it writes can be patched into
a larger value that it was read from: the difference of two written values, merged there, is read
back as the second one. Objects are put together of fields, each with a codec of its own.
-/
namespace ClusterImport

open Json

variable {α β : Type}

/-- Reading and writing one kind of value. A value that fits is read back as one that is written
like its settled form; and so is what comes of a value that was read, once the difference to one
that fits is merged into it. -/
structure Codec (α : Type) where
  read : Decode.Decoder α
  write : α → Json
  /-- What a value has to be like for what it holds beside to be kept. -/
  Shaped : Json → Prop
  Fits : α → Prop
  settled : α → α
  write_ne_null (a : α) : write a ≠ null
  merge_null (a : α) : merge null (write a) = write a
  diff_eq_none (a b : α) : diff (write a) (write b) = none ↔ (write a == write b) = true
  reread {a : α} : Fits a → ∃ b, read (write a) = some b ∧ (write b == write (settled a)) = true
  follow {raw : Json} {a b : α} : raw.Ordered → Shaped raw → read raw = some a → Fits b →
    ∃ c, read (overlay raw (write a) (write b)) = some c ∧ (write c == write (settled b)) = true

structure Layout (α : Type) where
  names : List String
  read : Dict Json → Option α
  write : α → Dict Json
  Shaped : Dict Json → Prop
  Fits : α → Prop
  settled : α → α
  keys (a : α) : (Dict.keys (write a)).Sublist names
  merge_null (a : α) : ∀ p ∈ write a, p.2 ≠ null ∧ merge null p.2 = p.2
  diff_eq_none (a b : α) {key : String} {v w : Json} : Dict.get? key (write a) = some v →
    Dict.get? key (write b) = some w → (diff v w = none ↔ (v == w) = true)
  reread {a : α} {ms : Dict Json} : Fits a →
    (∀ key ∈ names, Dict.get? key ms = Dict.get? key (write a)) →
    ∃ b, read ms = some b ∧ eqvMembers (write b) (write (settled a)) = true
  follow {raw : Dict Json} (ms : Dict Json) {a b : α} : (obj raw).Ordered → Shaped raw →
    read raw = some a → Fits b →
    (∀ key ∈ names, Dict.get? key ms = overlayMember (Dict.get? key raw) (Dict.get? key (write a))
      (Dict.get? key (write b))) →
    ∃ c, read ms = some c ∧ eqvMembers (write c) (write (settled b)) = true

namespace Codec

def plain (read : Decode.Decoder α) (write : α → Json) (Fits : α → Prop) (settled : α → α)
    (ne_null : ∀ a, write a ≠ null) (not_object : ∀ a, (write a).isObject = false)
    (reread : ∀ a, Fits a →
      ∃ b, read (write a) = some b ∧ (write b == write (settled a)) = true)
    (same : ∀ raw a b, read raw = some a → (write a == write b) = true →
      (write a == write (settled b)) = true) : Codec α where
  read := read
  write := write
  Shaped _ := True
  Fits := Fits
  settled := settled
  write_ne_null := ne_null
  merge_null a := merge_of_not_object (not_object a) null
  diff_eq_none a b := diff_eq_none_of_not_object (not_object b) (write a)
  reread := reread _
  follow {raw a b} _ _ hread hfits := by
    rw [overlay, diff_of_not_object (not_object b)]
    by_cases h : (write a == write b) = true
    · rw [if_pos h]
      exact ⟨a, hread, same raw a b hread h⟩
    · rw [if_neg h]
      change ∃ c, read (merge raw (write b)) = some c ∧ _
      rw [merge_of_not_object (not_object b)]
      exact reread b hfits

def exact (read : Decode.Decoder α) (write : α → Json) (Fits : α → Prop)
    (ne_null : ∀ a, write a ≠ null) (not_object : ∀ a, (write a).isObject = false)
    (reread : ∀ a, Fits a → read (write a) = some a) : Codec α :=
  plain read write Fits id ne_null not_object
    (fun a h => ⟨a, reread a h, beq_self (write a)⟩) (fun _ _ _ _ h => h)

end Codec

namespace Decode

variable {d : Decoder α} {key : String} {ms : Dict Json}

theorem maybe_of_none (h : Dict.get? key ms = none) : maybe d key ms = some none := by
  rw [maybe, h]

theorem maybe_of_null (h : Dict.get? key ms = some null) : maybe d key ms = some none := by
  rw [maybe, h]

theorem maybe_of_some {v : Json} (h : Dict.get? key ms = some v) (hv : v ≠ null) :
    maybe d key ms = (d v).map some := by
  rw [maybe, h]
  cases v with
  | null => exact absurd rfl hv
  | _ => rfl

/-- An optional member is missing or null, or a value is read from it. -/
theorem maybe_eq_some {o : Option α} (h : maybe d key ms = some o) :
    (o = none ∧ (Dict.get? key ms).getD null = null) ∨
      ∃ v a, o = some a ∧ Dict.get? key ms = some v ∧ v ≠ null ∧ d v = some a := by
  cases hk : Dict.get? key ms with
  | none =>
    rw [maybe_of_none hk] at h
    exact .inl ⟨(Option.some.inj h).symm, rfl⟩
  | some v =>
    by_cases hv : v = null
    · subst hv
      rw [maybe_of_null hk] at h
      exact .inl ⟨(Option.some.inj h).symm, rfl⟩
    · rw [maybe_of_some hk hv] at h
      obtain ⟨a, ha, rfl⟩ := Option.map_eq_some_iff.1 h
      exact .inr ⟨v, a, rfl, rfl, hv, ha⟩

/-- What is kept as it is was given. -/
theorem ne_null_of_maybe_any {o : Option Json} (h : maybe any key ms = some o) :
    ∀ v ∈ o, v ≠ null := by
  intro v hv
  rcases maybe_eq_some h with ⟨rfl, -⟩ | ⟨_, _, rfl, -, hne, ha⟩
  · cases hv
  · cases hv
    cases ha
    exact hne

theorem orDefault_of_none {default : α} (h : Dict.get? key ms = none) :
    orDefault default d key ms = some default := by
  rw [orDefault, h]

theorem orDefault_of_some {v : Json} (h : Dict.get? key ms = some v) (default : α) :
    orDefault default d key ms = d v := by
  rw [orDefault, h]

end Decode

namespace Layout

open Decode Encode

theorem get?_write_eq_none (l : Layout α) (a : α) {key : String} (h : key ∉ l.names) :
    Dict.get? key (l.write a) = none :=
  Dict.get?_eq_none_of_keys (l.keys a) h

theorem get?_singleton (key : String) (v : Json) : Dict.get? key [(key, v)] = some v :=
  if_pos rfl

theorem eqvMembers_singleton (key : String) {v w : Json} (h : (v == w) = true) :
    eqvMembers [(key, v)] [(key, w)] = true := by
  have he : eqv v w = true := h
  simp [eqvMembers, he]

theorem get?_written (key : String) (write : α → Json) (o : Option α) :
    Dict.get? key (present key write o) = o.map write := by
  rw [Dict.get?_present, if_pos rfl]

def optional (key : String) (c : Codec α) : Layout (Option α) where
  names := [key]
  read := maybe c.read key
  write := present key c.write
  Shaped ms := ∀ v, Dict.get? key ms = some v → v ≠ null → c.Shaped v
  Fits o := ∀ a ∈ o, c.Fits a
  settled := Option.map c.settled
  keys o := by cases o <;> simp [present, Dict.keys]
  merge_null o := by
    cases o with
    | none => simp [present]
    | some a => simp [present, c.write_ne_null, c.merge_null]
  diff_eq_none a b k v w hv hw := by
    rw [Dict.get?_present] at hv hw
    obtain ⟨-, hv⟩ := Option.ite_none_right_eq_some.1 hv
    obtain ⟨-, hw⟩ := Option.ite_none_right_eq_some.1 hw
    obtain ⟨a, -, rfl⟩ := Option.map_eq_some_iff.1 hv
    obtain ⟨b, -, rfl⟩ := Option.map_eq_some_iff.1 hw
    exact c.diff_eq_none a b
  reread {o ms} hfits hms := by
    have hk := hms key (by simp)
    rw [get?_written] at hk
    cases o with
    | none => exact ⟨none, maybe_of_none hk, rfl⟩
    | some a =>
      obtain ⟨b, hb, he⟩ := c.reread (hfits a rfl)
      refine ⟨some b, ?_, eqvMembers_singleton key he⟩
      rw [maybe_of_some hk (c.write_ne_null a), hb, Option.map_some]
  follow {raw} ms {a b} hraw hshaped hread hfits hms := by
    have hk := hms key (by simp)
    rw [get?_written, get?_written] at hk
    rcases maybe_eq_some hread with ⟨rfl, hnull⟩ | ⟨v, x, rfl, hv, hne, hx⟩
    · cases b with
      | none => exact ⟨none, by rwa [maybe, hk], rfl⟩
      | some y =>
        -- nothing was there, and what is put there is read back as it is
        obtain ⟨z, hz, he⟩ := c.reread (hfits y rfl)
        rw [Option.map_none, Option.map_some, overlayMember_added (c.write_ne_null y), hnull,
          c.merge_null] at hk
        refine ⟨some z, ?_, eqvMembers_singleton key he⟩
        rw [maybe_of_some hk (c.write_ne_null y), hz, Option.map_some]
    · cases b with
      | none => exact ⟨none, maybe_of_none hk, rfl⟩
      | some y =>
        obtain ⟨z, hz, he⟩ := c.follow (ordered_of_mem hraw.2 (Dict.mem_of_get? hv))
          (hshaped v hv hne) hx (hfits y rfl)
        rw [hv, Option.map_some, Option.map_some, overlayMember_changed (c.write_ne_null y)] at hk
        refine ⟨some z, ?_, eqvMembers_singleton key he⟩
        rw [maybe_of_some hk (overlay_ne_null hne (c.write_ne_null y) _), hz, Option.map_some]

theorem optional_read (key : String) (c : Codec α) :
    (optional key c).read = maybe c.read key := rfl

theorem optional_settled (key : String) (c : Codec α) (o : Option α) :
    (optional key c).settled o = o.map c.settled := rfl

def mandatory (key : String) (c : Codec α) : Layout α where
  names := [key]
  read := required c.read key
  write a := [(key, c.write a)]
  Shaped ms := ∀ v, Dict.get? key ms = some v → c.Shaped v
  Fits := c.Fits
  settled := c.settled
  keys a := by simp [Dict.keys]
  merge_null a := by simp [c.write_ne_null, c.merge_null]
  diff_eq_none a b k v w hv hw := by
    obtain ⟨-, hv⟩ := Option.ite_none_right_eq_some.1 hv
    obtain ⟨-, hw⟩ := Option.ite_none_right_eq_some.1 hw
    obtain rfl := Option.some.inj hv
    obtain rfl := Option.some.inj hw
    exact c.diff_eq_none a b
  reread {a ms} hfits hms := by
    have hk := hms key (by simp)
    rw [get?_singleton] at hk
    obtain ⟨b, hb, he⟩ := c.reread hfits
    exact ⟨b, by rw [required, hk, Option.bind_some, hb], eqvMembers_singleton key he⟩
  follow {raw} ms {a b} hraw hshaped hread hfits hms := by
    have hk := hms key (by simp)
    obtain ⟨v, hv, hx⟩ := Option.bind_eq_some_iff.1 hread
    obtain ⟨z, hz, he⟩ := c.follow (ordered_of_mem hraw.2 (Dict.mem_of_get? hv)) (hshaped v hv) hx
      hfits
    rw [get?_singleton, get?_singleton, hv, overlayMember_changed (c.write_ne_null b)] at hk
    exact ⟨z, by rw [required, hk, Option.bind_some, hz], eqvMembers_singleton key he⟩

def defaulted (key : String) (default : α) (c : Codec α) (hobj : ∀ a, (c.write a).isObject = false)
    (hsettled : ∀ a, c.settled a = a) : Layout α where
  names := [key]
  read := orDefault default c.read key
  write a := [(key, c.write a)]
  Shaped ms := ∀ v, Dict.get? key ms = some v → c.Shaped v
  Fits := c.Fits
  settled := c.settled
  keys a := by simp [Dict.keys]
  merge_null a := by simp [c.write_ne_null, c.merge_null]
  diff_eq_none := (mandatory key c).diff_eq_none
  reread {a ms} hfits hms := by
    have hk := hms key (by simp)
    rw [get?_singleton] at hk
    obtain ⟨b, hb, he⟩ := c.reread hfits
    exact ⟨b, by rw [orDefault_of_some hk, hb], eqvMembers_singleton key he⟩
  follow {raw} ms {a b} hraw hshaped hread hfits hms := by
    have hk := hms key (by simp)
    rw [get?_singleton, get?_singleton] at hk
    cases hv : Dict.get? key raw with
    | some v =>
      rw [orDefault_of_some hv] at hread
      obtain ⟨z, hz, he⟩ := c.follow (ordered_of_mem hraw.2 (Dict.mem_of_get? hv)) (hshaped v hv)
        hread hfits
      rw [hv, overlayMember_changed (c.write_ne_null b)] at hk
      exact ⟨z, by rw [orDefault_of_some hk, hz], eqvMembers_singleton key he⟩
    | none =>
      rw [orDefault_of_none hv] at hread
      obtain rfl : default = a := Option.some.inj hread
      rw [hv, overlayMember, memberChange] at hk
      cases hd : diff (c.write default) (c.write b) with
      | none =>
        -- the default is meant, and nothing is written
        rw [hd] at hk
        refine ⟨default, orDefault_of_none hk, eqvMembers_singleton key ?_⟩
        rw [hsettled]
        exact (c.diff_eq_none default b).1 hd
      | some patch =>
        rw [diff_of_not_object (hobj b)] at hd
        split at hd
        · cases hd
        · obtain rfl := Option.some.inj hd
          obtain ⟨z, hz, he⟩ := c.reread hfits
          rw [diff_of_not_object (hobj b), if_neg ‹_›, mergedMember_some _ (c.write_ne_null b),
            Option.getD_none, c.merge_null] at hk
          exact ⟨z, by rw [orDefault_of_some hk, hz], eqvMembers_singleton key he⟩

def fixed (d : Dict Json) (h : ∀ p ∈ d, p.2 ≠ null ∧ p.2.isObject = false) : Layout Unit where
  names := d.keys
  read _ := some ()
  write _ := d
  Shaped _ := True
  Fits _ := True
  settled := id
  keys _ := List.Sublist.refl _
  merge_null _ p hp := ⟨(h p hp).1, merge_of_not_object (h p hp).2 null⟩
  diff_eq_none _ _ _ v _ _ hw := diff_eq_none_of_not_object (h _ (Dict.mem_of_get? hw)).2 v
  reread _ _ := ⟨(), rfl, eqvMembers_self d⟩
  follow _ _ _ _ _ _ _ _ := ⟨(), rfl, eqvMembers_self d⟩

section And

variable (l : Layout α) (m : Layout β)

theorem get?_append_left {key : String} (h : key ∉ m.names) (a : α) (b : β) :
    Dict.get? key (l.write a ++ m.write b) = Dict.get? key (l.write a) := by
  rw [Dict.get?_append, m.get?_write_eq_none b h, Option.or_none]

theorem get?_append_right {key : String} (h : key ∉ l.names) (a : α) (b : β) :
    Dict.get? key (l.write a ++ m.write b) = Dict.get? key (m.write b) := by
  rw [Dict.get?_append, l.get?_write_eq_none a h, Option.none_or]

def and (h : ∀ key ∈ l.names, key ∉ m.names) : Layout (α × β) where
  names := l.names ++ m.names
  read ms := (l.read ms).bind fun a => (m.read ms).map fun b => (a, b)
  write p := l.write p.1 ++ m.write p.2
  Shaped ms := l.Shaped ms ∧ m.Shaped ms
  Fits p := l.Fits p.1 ∧ m.Fits p.2
  settled p := (l.settled p.1, m.settled p.2)
  keys p := by
    rw [Dict.keys, List.map_append]
    exact (l.keys p.1).append (m.keys p.2)
  merge_null p q hq := (List.mem_append.1 hq).elim (l.merge_null p.1 q) (m.merge_null p.2 q)
  diff_eq_none p q key v w hv hw := by
    by_cases hl : key ∈ l.names
    · rw [get?_append_left l m (h key hl)] at hv hw
      exact l.diff_eq_none p.1 q.1 hv hw
    · rw [get?_append_right l m hl] at hv hw
      exact m.diff_eq_none p.2 q.2 hv hw
  reread {p ms} hfits hms := by
    obtain ⟨a, ha, hea⟩ := l.reread hfits.1 fun key hkey => by
      rw [hms key (List.mem_append_left _ hkey), get?_append_left l m (h key hkey)]
    obtain ⟨b, hb, heb⟩ := m.reread hfits.2 fun key hkey => by
      rw [hms key (List.mem_append_right _ hkey), get?_append_right l m (h key · hkey)]
    exact ⟨(a, b), by rw [ha, Option.bind_some, hb, Option.map_some], eqvMembers_append hea heb⟩
  follow {raw} ms {p q} hraw hshaped hread hfits hms := by
    obtain ⟨x, hx, hpair⟩ := Option.bind_eq_some_iff.1 hread
    obtain ⟨y, hy, rfl⟩ := Option.map_eq_some_iff.1 hpair
    obtain ⟨a, ha, hea⟩ := l.follow ms hraw hshaped.1 hx hfits.1 fun key hkey => by
      rw [hms key (List.mem_append_left _ hkey), get?_append_left l m (h key hkey),
        get?_append_left l m (h key hkey)]
    obtain ⟨b, hb, heb⟩ := m.follow ms hraw hshaped.2 hy hfits.2 fun key hkey => by
      rw [hms key (List.mem_append_right _ hkey), get?_append_right l m (h key · hkey),
        get?_append_right l m (h key · hkey)]
    exact ⟨(a, b), by rw [ha, Option.bind_some, hb, Option.map_some], eqvMembers_append hea heb⟩

end And

section Before

variable (m : Layout β) {key : String} (c : Codec α) (h : key ∉ m.names)

def before (key : String) (c : Codec α) (h : key ∉ m.names) : Layout (Option α × β) :=
  (optional key c).and m fun k hk => by
    rw [List.mem_singleton.1 hk]
    exact h

theorem before_read_bind {γ : Type} (ms : Dict Json) (next : Option α × β → Option γ) :
    ((m.before key c h).read ms).bind next =
      (maybe c.read key ms).bind fun a => (m.read ms).bind fun b => next (a, b) := by
  simp only [before, and, optional, Option.map_eq_bind, Function.comp_def, Option.bind_assoc,
    Option.bind_some]

theorem before_write (p : Option α × β) :
    (m.before key c h).write p = present key c.write p.1 ++ m.write p.2 := rfl

theorem before_settled (p : Option α × β) :
    (m.before key c h).settled p = (p.1.map c.settled, m.settled p.2) := rfl

/-- One of the members of the layout is the field, which may be missing. -/
structure Holds {γ : Type} (l : Layout β) (name : String) (d : Codec γ) (field : β → Option γ) :
    Prop where
  mem : name ∈ l.names
  written (b : β) : Dict.get? name (l.write b) = (field b).map d.write
  read {ms : Dict Json} {b : β} : l.read ms = some b →
    (optional name d).read ms = some (field b)
  shaped {ms : Dict Json} : l.Shaped ms → (optional name d).Shaped ms

theorem holds_before : (m.before key c h).Holds key c Prod.fst where
  mem := List.mem_cons_self
  written p := ((optional key c).get?_append_left m (by simpa using h) p.1 p.2).trans
    (get?_written key c.write p.1)
  read {ms p} hread := by
    obtain ⟨a, ha, hrest⟩ := Option.bind_eq_some_iff.1 hread
    obtain ⟨b, -, rfl⟩ := Option.map_eq_some_iff.1 hrest
    exact ha
  shaped hs := hs.1

variable {m} in
theorem Holds.before {γ : Type} {name : String} {d : Codec γ} {field : β → Option γ}
    (hm : m.Holds name d field) : (m.before key c h).Holds name d fun p => field p.2 where
  mem := List.mem_cons_of_mem _ hm.mem
  written p := by
    have hne : name ∉ [key] := fun hk => h (List.mem_singleton.1 hk ▸ hm.mem)
    exact ((optional key c).get?_append_right m hne p.1 p.2).trans (hm.written p.2)
  read {ms p} hread := by
    obtain ⟨a, -, hrest⟩ := Option.bind_eq_some_iff.1 hread
    obtain ⟨b, hb, rfl⟩ := Option.map_eq_some_iff.1 hrest
    exact hm.read hb
  shaped hs := hm.shaped hs.2

end Before

section Object

variable (l : Layout α) (hnames : l.names.Pairwise (· < ·))
include hnames

theorem ordered_write (a : α) : Dict.Ordered (l.write a) :=
  Dict.ordered_iff_keys.2 (hnames.sublist (l.keys a))

theorem diff_obj_eq_none (a b : α) :
    diff (obj (l.write a)) (obj (l.write b)) = none ↔
      (obj (l.write a) == obj (l.write b)) = true :=
  diff_obj_eq_none_iff (l.ordered_write hnames a) (l.ordered_write hnames b) fun _ _ _ hv hw =>
    l.diff_eq_none a b hv hw

/-- What the difference of two written objects makes of a third one. -/
theorem get?_overlay_write {raw : Dict Json} (hraw : raw.Ordered) (a b : α) (key : String) :
    (overlay (obj raw) (obj (l.write a)) (obj (l.write b))).get? key =
      overlayMember (Dict.get? key raw) (Dict.get? key (l.write a))
        (Dict.get? key (l.write b)) := by
  rw [overlay_obj]
  exact get?_overlay hraw (l.ordered_write hnames b) _ key

/-- What both written objects have alike stays as the third one has it. -/
theorem get?_overlay_of_not_differ {raw : Dict Json} (hraw : raw.Ordered) {a b : α} {key : String}
    (h : ¬Differ (Dict.get? key (l.write a)) (Dict.get? key (l.write b))) :
    (overlay (obj raw) (obj (l.write a)) (obj (l.write b))).get? key = Dict.get? key raw := by
  rw [l.get?_overlay_write hnames hraw]
  exact overlayMember_of_not_differ h fun v w hv hw he => (l.diff_eq_none a b hv hw).2 he

theorem get?_overlay_of_notMem {raw : Dict Json} (hraw : raw.Ordered) (a b : α) {key : String}
    (h : key ∉ l.names) :
    (overlay (obj raw) (obj (l.write a)) (obj (l.write b))).get? key = Dict.get? key raw := by
  refine l.get?_overlay_of_not_differ hnames hraw ?_
  rw [l.get?_write_eq_none a h, l.get?_write_eq_none b h]
  exact id

end Object

def codec (l : Layout α) (hnames : l.names.Pairwise (· < ·)) (members : Decode.Decoder (Dict Json))
    (hmembers : ∀ ms, members (obj ms) = some ms) (make : α → β) (parts : β → α)
    (hparts : ∀ a, parts (make a) = a) : Codec β where
  read v := (members v).bind fun ms => (l.read ms).map make
  write b := obj (l.write (parts b))
  Shaped v := ∃ ms, v = obj ms ∧ l.Shaped ms
  Fits b := l.Fits (parts b)
  settled b := make (l.settled (parts b))
  write_ne_null b := nofun
  merge_null b := congrArg obj
    (mergeMembers_nil (l.ordered_write hnames _) (l.merge_null (parts b)))
  diff_eq_none a b := l.diff_obj_eq_none hnames (parts a) (parts b)
  reread {b} hfits := by
    obtain ⟨a, ha, he⟩ := l.reread hfits fun key _ => rfl
    refine ⟨make a, by rw [hmembers, Option.bind_some, ha, Option.map_some], ?_⟩
    rw [hparts, hparts]
    exact he
  follow {raw x y} hraw hshaped hread hfits := by
    obtain ⟨ms, rfl, hshaped⟩ := hshaped
    rw [hmembers, Option.bind_some] at hread
    obtain ⟨a, ha, rfl⟩ := Option.map_eq_some_iff.1 hread
    rw [hparts]
    obtain ⟨c, hc, he⟩ := l.follow _ hraw hshaped ha hfits fun key _ =>
      get?_overlay hraw.1 (l.ordered_write hnames _) _ key
    refine ⟨make c, by rw [overlay_obj, hmembers, Option.bind_some, hc, Option.map_some], ?_⟩
    rw [hparts, hparts]
    exact he

section Parts

variable {l : Layout α} {hnames : l.names.Pairwise (· < ·)}
  {members : Decode.Decoder (Dict Json)} {hmembers : ∀ ms, members (obj ms) = some ms}
  {make : α → β} {parts : β → α} {hparts : ∀ a, parts (make a) = a}

theorem codec_read (v : Json) :
    (l.codec hnames members hmembers make parts hparts).read v =
      (members v).bind fun ms => (l.read ms).bind fun a => some (make a) := by
  simp only [codec, Option.map_eq_bind, Function.comp_def]

theorem codec_write (b : β) :
    (l.codec hnames members hmembers make parts hparts).write b = obj (l.write (parts b)) := rfl

theorem codec_settled (b : β) :
    (l.codec hnames members hmembers make parts hparts).settled b =
      make (l.settled (parts b)) := rfl

end Parts

end Layout

structure Codec.Leaves (c : Codec α) (key : String) : Prop where
  written (a : α) : (c.write a).get? key = none
  kept {raw : Json} (a b : α) : raw.Ordered → c.Shaped raw →
    (overlay raw (c.write a) (c.write b)).get? key = raw.get? key

theorem Layout.codec_leaves {l : Layout α} {hnames : l.names.Pairwise (· < ·)}
    {members : Decode.Decoder (Dict Json)} {hmembers : ∀ ms, members (obj ms) = some ms}
    {make : α → β} {parts : β → α} {hparts : ∀ a, parts (make a) = a} {key : String}
    (h : key ∉ l.names) : (l.codec hnames members hmembers make parts hparts).Leaves key where
  written b := l.get?_write_eq_none (parts b) h
  kept x y hraw hshaped := by
    obtain ⟨ms, rfl, -⟩ := hshaped
    exact l.get?_overlay_of_notMem hnames hraw.1 (parts x) (parts y) h

/-- Neither do they go where the whole value is a member that may be missing. -/
theorem Codec.Leaves.optional {c : Codec α} {key : String} (h : c.Leaves key) {raw : Dict Json}
    {name : String} {before : Option α} (hraw : (obj raw).Ordered)
    (hshaped : (Layout.optional name c).Shaped raw)
    (hread : (Layout.optional name c).read raw = some before) (after : α) :
    (overlayMember (Dict.get? name raw) (before.map c.write) (some (c.write after))).bind
      (Json.get? key) = (Dict.get? name raw).bind (Json.get? key) := by
  rcases Decode.maybe_eq_some hread with ⟨rfl, hnull⟩ | ⟨v, a, rfl, hv, hne, -⟩
  · rw [Option.map_none, overlayMember_added (c.write_ne_null after), hnull, c.merge_null,
      Option.bind_some, h.written]
    cases hv : Dict.get? name raw with
    | none => rfl
    | some v =>
      rw [hv, Option.getD_some] at hnull
      rw [hnull]
      rfl
  · rw [hv, Option.map_some, overlayMember_changed (c.write_ne_null after), Option.bind_some,
      Option.bind_some]
    exact h.kept a after (ordered_of_mem hraw.2 (Dict.mem_of_get? hv)) (hshaped v hv hne)

/-- Members that the type of a field does not know stay while the field has a value. -/
theorem Layout.Holds.kept {l : Layout β} {name : String} {c : Codec α} {field : β → Option α}
    (h : l.Holds name c field) (hnames : l.names.Pairwise (· < ·)) {key : String}
    (hleaves : c.Leaves key) {raw : Dict Json} {before after : β} (hraw : (obj raw).Ordered)
    (hshaped : l.Shaped raw) (hread : l.read raw = some before)
    (hafter : Dict.get? name (l.write after) ≠ none) :
    at? [name, key] (overlay (obj raw) (obj (l.write before)) (obj (l.write after))) =
      at? [name, key] (obj raw) := by
  rw [h.written] at hafter
  cases hf : field after with
  | none => exact absurd (by rw [hf]; rfl) hafter
  | some a =>
    rw [at?_pair, at?_pair, l.get?_overlay_write hnames hraw.1, h.written, h.written, hf]
    exact hleaves.optional hraw (h.shaped hshaped) (h.read hread) a

end ClusterImport
