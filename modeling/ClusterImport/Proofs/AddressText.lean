import ClusterImport.Proofs.Numeral
/-!
Which texts are socket addresses, said without a reader: an address is put together from numbers and
marks. The reader takes at every place as much as it can, and an IPv4 address before a group; what
follows a part of an address never continues it, so the reader finds just the addresses that the
texts are put together from.
-/
namespace ClusterImport

namespace SocketAddress

variable {base bound n : Nat} {s t rest : List Char}

def Stops (base : Nat) (rest : List Char) : Prop := ∀ c ∈ rest.head?, isDigitIn base c = false

theorem stops_dropWhile (base : Nat) (s : List Char) :
    Stops base (s.dropWhile (isDigitIn base)) := by
  intro c hc
  have h := List.head?_dropWhile_not (isDigitIn base) s
  rw [Option.mem_def.1 hc] at h
  exact h

theorem takeWhile_of_stops (h : Stops base rest) (hs : ∀ c ∈ s, isDigitIn base c = true) :
    (s ++ rest).takeWhile (isDigitIn base) = s := by
  rw [List.takeWhile_append_of_pos hs]
  cases rest with
  | nil => exact List.append_nil s
  | cons c rest =>
    have hc : isDigitIn base c = false := h c rfl
    rw [List.takeWhile_cons_of_neg (by rw [hc]; exact Bool.false_ne_true), List.append_nil]

theorem dropWhile_of_stops (h : Stops base rest) (hs : ∀ c ∈ s, isDigitIn base c = true) :
    (s ++ rest).dropWhile (isDigitIn base) = rest := by
  have hsplit := List.takeWhile_append_dropWhile (p := isDigitIn base) (l := s ++ rest)
  rw [takeWhile_of_stops h hs] at hsplit
  exact List.append_cancel_left hsplit

theorem number?_eq_some_iff : number? base bound s = some (n, rest) ↔
    ∃ ds, s = ds ++ rest ∧ Numeral base n ds ∧ n < bound ∧ Stops base rest := by
  unfold number?
  constructor
  · intro h
    simp only [Option.ite_none_left_eq_some, Bool.or_eq_true, not_or, List.isEmpty_iff,
      decide_eq_true_eq, Nat.not_le, Option.some.injEq, Prod.mk.injEq] at h
    obtain ⟨⟨hne, hlt⟩, rfl, rfl⟩ := h
    refine ⟨_, List.takeWhile_append_dropWhile.symm, ⟨hne, fun c hc => ?_, rfl⟩, hlt,
      stops_dropWhile base s⟩
    exact List.mem_takeWhile_imp hc
  · rintro ⟨ds, rfl, hn, hlt, hstop⟩
    have hne : ds.isEmpty = false := List.isEmpty_eq_false_iff.2 hn.ne_nil
    simp [takeWhile_of_stops hstop hn.digits, dropWhile_of_stops hstop hn.digits, hn.value, hne,
      hlt]

theorem given?_eq_some_iff {c : Char} : given? c s = some rest ↔ s = c :: rest := by
  cases s with
  | nil => simp [given?]
  | cons d s => simp [given?, eq_comm]

structure Octet (n : Nat) (s : List Char) : Prop where
  numeral : Numeral 10 n s
  lt : n < 256
  length_le : s.length ≤ 3
  unpadded : 1 < s.length → s.head? ≠ some '0'

theorem octet?_eq_some_iff :
    octet? s = some (n, rest) ↔ ∃ ds, s = ds ++ rest ∧ Octet n ds ∧ Stops 10 rest := by
  unfold octet?
  simp only [Option.ite_none_left_eq_some, number?_eq_some_iff, Bool.or_eq_true, Bool.and_eq_true,
    decide_eq_true_eq, beq_iff_eq, not_or, not_and, Nat.not_lt]
  constructor
  · rintro ⟨⟨hl, hz⟩, ds, rfl, hn, hlt, hstop⟩
    rw [takeWhile_of_stops hstop hn.digits] at hl hz
    exact ⟨ds, rfl, ⟨hn, hlt, hl, hz⟩, hstop⟩
  · rintro ⟨ds, rfl, ⟨hn, hlt, hl, hz⟩, hstop⟩
    rw [takeWhile_of_stops hstop hn.digits]
    exact ⟨⟨hl, hz⟩, ds, rfl, hn, hlt, hstop⟩

inductive Dotted : Ipv4 → List Char → Prop
  | mk {a b c d : Nat} {as bs cs ds : List Char} (ha : Octet a as) (hb : Octet b bs)
      (hc : Octet c cs) (hd : Octet d ds) :
      Dotted ⟨[a, b, c, d]⟩ (as ++ '.' :: (bs ++ '.' :: (cs ++ '.' :: ds)))

theorem stops_cons {c : Char} (h : isDigitIn base c = false) : Stops base (c :: rest) :=
  fun _ hd => Option.some.inj hd ▸ h

theorem ipv4?_eq_some_iff {a : Ipv4} :
    ipv4? s = some (a, rest) ↔ ∃ t, s = t ++ rest ∧ Dotted a t ∧ Stops 10 rest := by
  simp only [ipv4?, Option.bind_eq_bind, Option.bind_eq_some_iff, Prod.exists,
    given?_eq_some_iff, octet?_eq_some_iff, Option.some.injEq, Prod.mk.injEq]
  constructor
  · rintro ⟨a, _, ⟨as, rfl, ha, -⟩, _, rfl, b, _, ⟨bs, rfl, hb, -⟩, _, rfl, c, _,
      ⟨cs, rfl, hc, -⟩, _, rfl, d, _, ⟨ds, rfl, hd, hstop⟩, rfl, rfl⟩
    exact ⟨_, by simp, .mk ha hb hc hd, hstop⟩
  · rintro ⟨_, rfl, ⟨ha, hb, hc, hd⟩, hstop⟩
    have hpoint {s : List Char} : Stops 10 ('.' :: s) := stops_cons (by decide)
    exact ⟨_, _, ⟨_, by simp, ha, hpoint⟩, _, rfl, _, _, ⟨_, rfl, hb, hpoint⟩, _, rfl, _, _,
      ⟨_, rfl, hc, hpoint⟩, _, rfl, _, _, ⟨_, rfl, hd, hstop⟩, rfl, rfl⟩

structure Hextet (n : Nat) (s : List Char) : Prop where
  numeral : Numeral 16 n s
  length_le : s.length ≤ 4

theorem group?_eq_some_iff :
    group? s = some (n, rest) ↔ ∃ ds, s = ds ++ rest ∧ Hextet n ds ∧ Stops 16 rest := by
  unfold group?
  simp only [Option.ite_none_left_eq_some, number?_eq_some_iff, Nat.not_lt]
  constructor
  · rintro ⟨hl, ds, rfl, hn, -, hstop⟩
    rw [takeWhile_of_stops hstop hn.digits] at hl
    exact ⟨ds, rfl, ⟨hn, hl⟩, hstop⟩
  · rintro ⟨ds, rfl, ⟨hn, hl⟩, hstop⟩
    rw [takeWhile_of_stops hstop hn.digits]
    refine ⟨hl, ds, rfl, hn, (hn.lt_pow (by decide)).trans_le ?_, hstop⟩
    exact Nat.pow_le_pow_right (by decide) hl

def lead (first : Bool) : List Char := if first then [] else [':']

theorem afterColon_eq_some_iff {first : Bool} :
    afterColon first s = some rest ↔ s = lead first ++ rest := by
  cases first with
  | true => simp [afterColon, lead]
  | false => exact given?_eq_some_iff

/-- Groups, each but the first after a colon; the last two may be an IPv4 address. -/
inductive Groups : (first : Bool) → List Nat → (embedded : Bool) → List Char → Prop
  | nil (first : Bool) : Groups first [] false []
  | dotted {first : Bool} {a : Ipv4} {s : List Char} (h : Dotted a s) :
      Groups first (groupsOf a) true (lead first ++ s)
  | cons {first embedded : Bool} {g : Nat} {gs : List Nat} {s t : List Char} (h : Hextet g s)
      (rest : Groups false gs embedded t) : Groups first (g :: gs) embedded (lead first ++ s ++ t)

/-- Every group that is read is there. -/
theorem groups_sound {room : Nat} {first embedded : Bool} {gs : List Nat}
    (h : groups room first s = (gs, embedded, rest)) :
    ∃ t, s = t ++ rest ∧ Groups first gs embedded t ∧ gs.length ≤ room := by
  induction room generalizing first s gs embedded with
  | zero =>
    obtain ⟨rfl, rfl, rfl⟩ : [] = gs ∧ false = embedded ∧ s = rest := by simpa [groups] using h
    exact ⟨[], rfl, .nil first, Nat.le_refl 0⟩
  | succ room ih =>
    rw [groups] at h
    split at h
    · rename_i a after htail
      obtain ⟨rfl, rfl, rfl⟩ : groupsOf a = gs ∧ true = embedded ∧ after = rest := by simpa using h
      simp only [Option.ite_none_left_eq_some, Option.bind_eq_some_iff, afterColon_eq_some_iff,
        ipv4?_eq_some_iff] at htail
      obtain ⟨hroom, _, rfl, t, rfl, ha, -⟩ := htail
      refine ⟨lead first ++ t, (List.append_assoc _ _ _).symm, .dotted ha, ?_⟩
      cases ha with
      | mk => exact Nat.succ_le_succ (Nat.one_le_iff_ne_zero.2 hroom)
    · split at h
      · obtain ⟨rfl, rfl, rfl⟩ : [] = gs ∧ false = embedded ∧ s = rest := by simpa using h
        exact ⟨[], rfl, .nil first, Nat.zero_le _⟩
      · rename_i g after hgroup
        simp only [Option.bind_eq_some_iff, afterColon_eq_some_iff, group?_eq_some_iff] at hgroup
        obtain ⟨_, rfl, ds, rfl, hg, -⟩ := hgroup
        generalize hlater : groups room false after = later at h
        obtain ⟨gs', embedded', rest'⟩ := later
        obtain ⟨rfl, rfl, rfl⟩ : g :: gs' = gs ∧ embedded' = embedded ∧ rest' = rest := by
          simpa using h
        obtain ⟨t, rfl, hgs, hlength⟩ := ih hlater
        exact ⟨lead first ++ ds ++ t, by simp, .cons hg hgs, Nat.succ_le_succ hlength⟩

structure Ends (rest : List Char) : Prop where
  noDigit : Stops 16 rest
  noPoint : rest.head? ≠ some '.'
  noGroup : ∀ after, rest = ':' :: after → Stops 16 after

theorem isDigitIn_mono {base bound : Nat} (h : base ≤ bound) {c : Char}
    (hc : isDigitIn base c = true) : isDigitIn bound c = true := by
  obtain ⟨d, hd⟩ := Option.isSome_iff_exists.1 hc
  obtain ⟨hd, hlt⟩ := Option.mem_filter_iff.1 hd
  refine Option.isSome_iff_exists.2 ⟨d, Option.mem_filter_iff.2 ⟨hd, ?_⟩⟩
  exact decide_eq_true (Nat.lt_of_lt_of_le (of_decide_eq_true hlt) h)

theorem Stops.mono {base bound : Nat} (h : base ≤ bound) (hs : Stops bound rest) :
    Stops base rest := fun c hc =>
  Bool.eq_false_iff.2 fun hd => Bool.eq_false_iff.1 (hs c hc) (isDigitIn_mono h hd)

theorem Stops.not_numeral {base bound : Nat} (h : Stops bound (s ++ rest)) (hb : base ≤ bound)
    (hn : Numeral base n s) : False := by
  cases s with
  | nil => exact hn.ne_nil rfl
  | cons c s =>
    exact Bool.eq_false_iff.1 (h c rfl) (isDigitIn_mono hb (hn.digits c List.mem_cons_self))

theorem group?_eq_none (h : Stops 16 s) : group? s = none := by
  refine Option.eq_none_iff_forall_ne_some.2 fun ⟨g, rest⟩ hg => ?_
  obtain ⟨ds, rfl, hd, -⟩ := group?_eq_some_iff.1 hg
  exact h.not_numeral (Nat.le_refl 16) hd.numeral

theorem ipv4?_eq_none (h : Stops 16 s) : ipv4? s = none := by
  refine Option.eq_none_iff_forall_ne_some.2 fun ⟨a, rest⟩ ha => ?_
  obtain ⟨_, rfl, ⟨hfirst, _, _, _⟩, -⟩ := ipv4?_eq_some_iff.1 ha
  rw [List.append_assoc] at h
  exact h.not_numeral (by decide) hfirst.numeral

/-- A number that no point follows does not begin an IPv4 address. -/
theorem ipv4?_numeral (hn : Numeral 16 n s) (hstop : Stops 16 rest)
    (hpoint : rest.head? ≠ some '.') : ipv4? (s ++ rest) = none := by
  refine Option.eq_none_iff_forall_ne_some.2 fun ⟨a, later⟩ ha => ?_
  obtain ⟨_, heq, ⟨hfirst, _, _, _⟩, -⟩ := ipv4?_eq_some_iff.1 ha
  rw [List.append_assoc, List.cons_append] at heq
  rcases List.append_eq_append_iff.1 heq with ⟨more, rfl, rfl⟩ | ⟨more, rfl, hmore⟩
  · cases more with
    | nil => exact hpoint rfl
    | cons c more =>
      have hc := hfirst.numeral.digits c (by simp)
      exact Bool.eq_false_iff.1 (hstop c rfl) (isDigitIn_mono (by decide) hc)
  · cases more with
    | nil =>
      rw [List.nil_append] at hmore
      exact hpoint (by rw [← hmore]; rfl)
    | cons c more =>
      obtain ⟨rfl, -⟩ := List.cons.inj hmore
      exact absurd (hn.digits '.' (by simp)) (by decide)

theorem Ends.after_groups (h : Ends rest) {embedded : Bool} {gs : List Nat}
    (hg : Groups false gs embedded t) : Stops 16 (t ++ rest) ∧ (t ++ rest).head? ≠ some '.' := by
  cases hg with
  | nil => exact ⟨h.noDigit, h.noPoint⟩
  | dotted => exact ⟨stops_cons (by decide), by simp [lead]⟩
  | cons => exact ⟨stops_cons (by decide), by simp [lead]⟩

/-- All groups that are there are read. -/
theorem groups_complete {first embedded : Bool} {gs : List Nat} (h : Groups first gs embedded t)
    {room : Nat} (hroom : gs.length ≤ room) (hrest : Ends rest) :
    groups room first (t ++ rest) = (gs, embedded, rest) := by
  induction h generalizing room with
  | nil first =>
    cases room with
    | zero => rfl
    | succ room =>
      have hstop (after : List Char) (ha : afterColon first rest = some after) :
          Stops 16 after := by
        cases first with
        | true => exact Option.some.inj ha ▸ hrest.noDigit
        | false => exact hrest.noGroup after (afterColon_eq_some_iff.1 ha)
      have hdotted : (afterColon first rest).bind ipv4? = none :=
        Option.bind_eq_none_iff.2 fun after ha => ipv4?_eq_none (hstop after ha)
      have hgroup : (afterColon first rest).bind group? = none :=
        Option.bind_eq_none_iff.2 fun after ha => group?_eq_none (hstop after ha)
      simp [groups, hdotted, hgroup]
  | @dotted first a s ha =>
    have hlead : afterColon first (lead first ++ s ++ rest) = some (s ++ rest) :=
      afterColon_eq_some_iff.2 (List.append_assoc _ _ _)
    have hdotted : ipv4? (s ++ rest) = some (a, rest) :=
      ipv4?_eq_some_iff.2 ⟨s, rfl, ha, hrest.noDigit.mono (by decide)⟩
    obtain ⟨room, rfl⟩ : ∃ n, room = n + 2 := by
      cases ha with
      | mk => exact ⟨room - 2, (Nat.sub_add_cancel hroom).symm⟩
    rw [groups, hlead, if_neg (Nat.succ_ne_zero room), Option.bind_some, hdotted]
  | @cons first embedded g gs s t hg _ ih =>
    obtain ⟨hstop, hpoint⟩ := hrest.after_groups ‹Groups false gs embedded t›
    have hlead : afterColon first (lead first ++ s ++ t ++ rest) = some (s ++ (t ++ rest)) :=
      afterColon_eq_some_iff.2 (by simp)
    have hgroup : group? (s ++ (t ++ rest)) = some (g, t ++ rest) :=
      group?_eq_some_iff.2 ⟨s, rfl, hg, hstop⟩
    cases room with
    | zero => exact absurd hroom (by simp)
    | succ room =>
      rw [groups, hlead, Option.bind_some, Option.bind_some,
        ipv4?_numeral hg.numeral hstop hpoint, ite_self, hgroup]
      dsimp only
      rw [ih (Nat.le_of_succ_le_succ hroom)]

inductive HexText : Ipv6 → List Char → Prop
  | full {embedded : Bool} {gs : List Nat} {s : List Char} (h : Groups true gs embedded s)
      (hlength : gs.length = 8) : HexText ⟨gs⟩ s
  | short {embedded : Bool} {head tail : List Nat} {s t : List Char}
      (hhead : Groups true head false s) (htail : Groups true tail embedded t)
      (hlength : head.length + tail.length ≤ 7) :
      HexText ⟨head ++ List.replicate (8 - head.length - tail.length) 0 ++ tail⟩
        (s ++ ':' :: ':' :: t)

theorem ipv6?_sound {a : Ipv6} (h : ipv6? s = some (a, rest)) :
    ∃ t, s = t ++ rest ∧ HexText a t := by
  rw [ipv6?] at h
  generalize hg : groups 8 true s = read at h
  obtain ⟨head, embedded, after⟩ := read
  obtain ⟨t, rfl, hgroups, hle⟩ := groups_sound hg
  dsimp only at h
  split at h
  · rename_i hlength
    obtain ⟨rfl, rfl⟩ : ⟨head⟩ = a ∧ after = rest := by simpa using h
    exact ⟨t, rfl, .full hgroups hlength⟩
  · rename_i hlength
    cases embedded with
    | true => cases h
    | false =>
      simp only [Bool.false_eq_true, if_false, Option.bind_eq_bind, Option.bind_eq_some_iff,
        given?_eq_some_iff] at h
      obtain ⟨_, rfl, later, rfl, h⟩ := h
      generalize hl : groups (7 - head.length) true later = read at h
      obtain ⟨tail, ended, final⟩ := read
      obtain ⟨u, rfl, htail, hroom⟩ := groups_sound hl
      obtain ⟨rfl, rfl⟩ := Prod.mk.inj (Option.some.inj h)
      have hlength : head.length + tail.length ≤ 7 := by omega
      exact ⟨t ++ ':' :: ':' :: u, by simp, .short hgroups htail hlength⟩

theorem ipv6?_complete {a : Ipv6} (h : HexText a t) (hrest : Ends rest) :
    ipv6? (t ++ rest) = some (a, rest) := by
  cases h with
  | full hg hlength =>
    rw [ipv6?, groups_complete hg (Nat.le_of_eq hlength) hrest]
    simp [hlength]
  | @short embedded head tail s t hhead htail hlength =>
    have hcolons : Ends (':' :: ':' :: (t ++ rest)) := by
      refine ⟨stops_cons (by decide), by simp, fun after ha => ?_⟩
      exact (List.cons.inj ha).2 ▸ stops_cons (by decide)
    have hfirst : groups 8 true (s ++ ':' :: ':' :: (t ++ rest)) =
        (head, false, ':' :: ':' :: (t ++ rest)) := groups_complete hhead (by omega) hcolons
    have hsecond : groups (7 - head.length) true (t ++ rest) = (tail, embedded, rest) :=
      groups_complete htail (by omega) hrest
    rw [List.append_assoc, List.cons_append, List.cons_append, ipv6?, hfirst]
    simp [show head.length ≠ 8 by omega, given?, hsecond]

inductive ScopeText : Nat → List Char → Prop
  | none : ScopeText 0 []
  | some {n : Nat} {s : List Char} (h : Numeral 10 n s) (hlt : n < Nat.pow 2 32) :
      ScopeText n ('%' :: s)

inductive AddressText : SocketAddress → List Char → Prop
  | v4 {a : Ipv4} {port : Nat} {s t : List Char} (ha : Dotted a s) (hp : Numeral 10 port t)
      (hlt : port < 65536) : AddressText (.v4 a port) (s ++ ':' :: t)
  | v6 {a : Ipv6} {scope port : Nat} {s t u : List Char} (ha : HexText a s)
      (hs : ScopeText scope t) (hp : Numeral 10 port u) (hlt : port < 65536) :
      AddressText (.v6 a scope port) ('[' :: (s ++ t ++ ']' :: ':' :: u))

theorem port?_eq_some_iff {port : Nat} : port? s = some (port, []) ↔
    ∃ t, s = ':' :: t ∧ Numeral 10 port t ∧ port < 65536 := by
  simp only [port?, Option.bind_eq_bind, Option.bind_eq_some_iff, given?_eq_some_iff,
    number?_eq_some_iff, List.append_nil]
  constructor
  · rintro ⟨_, rfl, t, rfl, hn, hlt, -⟩
    exact ⟨_, rfl, hn, hlt⟩
  · rintro ⟨t, rfl, hn, hlt⟩
    exact ⟨t, rfl, t, rfl, hn, hlt, nofun⟩

theorem v4?_eq_some_iff {a : SocketAddress} : v4? s = some (a, []) ↔
    ∃ b port t u, a = .v4 b port ∧ s = t ++ ':' :: u ∧ Dotted b t ∧ Numeral 10 port u ∧
      port < 65536 := by
  simp only [v4?, Option.bind_eq_bind, Option.bind_eq_some_iff, Prod.exists, ipv4?_eq_some_iff]
  constructor
  · rintro ⟨b, _, ⟨t, rfl, hb, -⟩, port, _, hport, h⟩
    obtain ⟨rfl, rfl⟩ := Prod.mk.inj (Option.some.inj h)
    obtain ⟨u, rfl, hn, hlt⟩ := port?_eq_some_iff.1 hport
    exact ⟨b, port, t, u, rfl, rfl, hb, hn, hlt⟩
  · rintro ⟨b, port, t, u, rfl, rfl, hb, hn, hlt⟩
    exact ⟨b, _, ⟨t, rfl, hb, stops_cons (by decide)⟩, port, [],
      port?_eq_some_iff.2 ⟨u, rfl, hn, hlt⟩, rfl⟩

theorem scope_sound {n : Nat} (h : scope s = (n, rest)) :
    ∃ t, s = t ++ rest ∧ ScopeText n t := by
  rw [scope] at h
  cases hs : (given? '%' s).bind (number? 10 (Nat.pow 2 32)) with
  | none =>
    rw [hs] at h
    obtain ⟨rfl, rfl⟩ := Prod.mk.inj h
    exact ⟨[], rfl, .none⟩
  | some read =>
    obtain rfl : read = (n, rest) := by rwa [hs] at h
    simp only [Option.bind_eq_some_iff, given?_eq_some_iff, number?_eq_some_iff] at hs
    obtain ⟨_, rfl, ds, rfl, hn, hlt, -⟩ := hs
    exact ⟨'%' :: ds, rfl, .some hn hlt⟩

theorem scope_complete {n : Nat} (h : ScopeText n t) :
    scope (t ++ ']' :: rest) = (n, ']' :: rest) := by
  cases h with
  | none => rfl
  | @some n s hn hlt =>
    have hread : number? 10 (Nat.pow 2 32) (s ++ ']' :: rest) = some (n, ']' :: rest) :=
      number?_eq_some_iff.2 ⟨s, rfl, hn, hlt, stops_cons (by decide)⟩
    simp [scope, given?, hread]

theorem v6?_eq_some_iff {a : SocketAddress} : v6? s = some (a, []) ↔
    ∃ b scope port t u v, a = .v6 b scope port ∧ s = '[' :: (t ++ u ++ ']' :: ':' :: v) ∧
      HexText b t ∧ ScopeText scope u ∧ Numeral 10 port v ∧ port < 65536 := by
  simp only [v6?, Option.bind_eq_bind, Option.bind_eq_some_iff, Prod.exists, given?_eq_some_iff]
  constructor
  · rintro ⟨_, rfl, b, after, hb, h⟩
    obtain ⟨t, rfl, htext⟩ := ipv6?_sound hb
    generalize hs : scope after = read at h
    obtain ⟨n, later⟩ := read
    obtain ⟨u, rfl, hscope⟩ := scope_sound hs
    obtain ⟨_, rfl, port, final, hport, h⟩ := h
    obtain ⟨rfl, rfl⟩ := Prod.mk.inj (Option.some.inj h)
    obtain ⟨v, rfl, hn, hlt⟩ := port?_eq_some_iff.1 hport
    exact ⟨b, n, port, t, u, v, rfl, by simp, htext, hscope, hn, hlt⟩
  · rintro ⟨b, n, port, t, u, v, rfl, rfl, hb, hs, hn, hlt⟩
    have hends : Ends (u ++ ']' :: ':' :: v) := by
      cases hs with
      | none => exact ⟨stops_cons (by decide), by simp, nofun⟩
      | some => exact ⟨stops_cons (by decide), by simp, nofun⟩
    refine ⟨_, rfl, b, u ++ ']' :: ':' :: v, ?_, ?_⟩
    · rw [List.append_assoc]
      exact ipv6?_complete hb hends
    · rw [scope_complete hs]
      exact ⟨_, rfl, port, [], port?_eq_some_iff.2 ⟨v, rfl, hn, hlt⟩, rfl⟩

/-- Just the texts of socket addresses are read as such. -/
theorem ofChars?_eq_some_iff {a : SocketAddress} : ofChars? s = some a ↔ AddressText a s := by
  have hread : ofChars? s = some a ↔ (v4? s).or (v6? s) = some (a, []) := by
    unfold ofChars?
    split
    · rename_i b h
      simp [h]
    · rename_i h
      exact iff_of_false nofun fun hs => h a hs
  rw [hread, Option.or_eq_some_iff, v4?_eq_some_iff, v6?_eq_some_iff]
  constructor
  · rintro (⟨b, port, t, u, rfl, rfl, hb, hn, hlt⟩ |
      ⟨-, b, n, port, t, u, v, rfl, rfl, hb, hs, hn, hlt⟩)
    · exact .v4 hb hn hlt
    · exact .v6 hb hs hn hlt
  · intro h
    cases h with
    | v4 hb hn hlt => exact .inl ⟨_, _, _, _, rfl, rfl, hb, hn, hlt⟩
    | v6 hb hs hn hlt =>
      refine .inr ⟨?_, _, _, _, _, _, _, rfl, rfl, hb, hs, hn, hlt⟩
      -- an IPv4 address does not begin with a bracket
      have hnone {s : List Char} : ipv4? ('[' :: s) = none :=
        ipv4?_eq_none (stops_cons (by decide))
      rw [v4?, hnone]
      rfl

end SocketAddress

end ClusterImport
