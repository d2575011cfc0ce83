import ClusterImport.Config
import ClusterImport.Proofs.AddressText
import ClusterImport.Proofs.Traversal
/-!
Which variables make a configuration. Five of them are read, in a fixed order, and each gives one
field and nothing else; two are taken as they are. The reading succeeds just if each of the five is
unset, blank, or says something of its kind, and else reports the first that does not. White space
around a value makes no difference.
-/
namespace ClusterImport

namespace Text

variable {s t : List Char}

def Blank (s : List Char) : Prop := ∀ c ∈ s, isBlank c = true

instance : DecidablePred Blank := fun _ => decidable_of_iff _ List.all_eq_true

theorem allBlank_iff {v : String} : allBlank v = true ↔ Blank v.toList := List.all_eq_true

theorem trimStart_append (hs : Blank s) (t : List Char) : trimStart (s ++ t) = trimStart t :=
  List.dropWhile_append_of_pos hs

theorem trimStart_of_blank (hs : Blank s) : trimStart s = [] := by
  have h := trimStart_append hs []
  rwa [List.append_nil] at h

theorem trimStart_append_of_not_blank (hs : ¬Blank s) (t : List Char) :
    trimStart (s ++ t) = trimStart s ++ t := by
  induction s with
  | nil => exact absurd (List.forall_mem_nil _) hs
  | cons c s ih =>
    cases hc : isBlank c with
    | false => simp [trimStart, hc]
    | true =>
      have hs : ¬Blank s := fun h => hs (List.forall_mem_cons.2 ⟨hc, h⟩)
      have hih := ih hs
      simp only [trimStart] at hih ⊢
      rw [List.cons_append, List.dropWhile_cons_of_pos hc, List.dropWhile_cons_of_pos hc, hih]

theorem trimEnd_append (s : List Char) (ht : Blank t) : trimEnd (s ++ t) = trimEnd s := by
  have ht : Blank t.reverse := fun c hc => ht c (List.mem_reverse.1 hc)
  rw [trimEnd, trimEnd, List.reverse_append]
  exact congrArg List.reverse (trimStart_append ht _)

def Respaced (s t : List Char) : Prop :=
  ∃ core l r l' r', s = l ++ core ++ r ∧ t = l' ++ core ++ r' ∧
    Blank l ∧ Blank r ∧ Blank l' ∧ Blank r'

theorem trim_around {l core r : List Char} (hl : Blank l) (hr : Blank r) :
    trim (l ++ core ++ r) = trim core := by
  rw [trim, trim, List.append_assoc, trimStart_append hl]
  by_cases hc : Blank core
  · rw [trimStart_append hc, trimStart_of_blank hr, trimStart_of_blank hc]
  · rw [trimStart_append_of_not_blank hc, trimEnd_append _ hr]

theorem blank_append : Blank (s ++ t) ↔ Blank s ∧ Blank t := List.forall_mem_append

theorem Respaced.trim_eq (h : Respaced s t) : trim t = trim s := by
  obtain ⟨core, l, r, l', r', rfl, rfl, hl, hr, hl', hr'⟩ := h
  rw [trim_around hl hr, trim_around hl' hr']

theorem Respaced.blank_iff (h : Respaced s t) : Blank t ↔ Blank s := by
  obtain ⟨core, l, r, l', r', rfl, rfl, hl, hr, hl', hr'⟩ := h
  simp only [blank_append, hl, hr, hl', hr', true_and, and_true]

end Text

namespace ConfigError

def key : ConfigError → String
  | integer key _ _ => key
  | noConcurrency => "RECONCILE_CONCURRENCY"
  | flag key _ => key
  | address key _ => key

theorem message_eq (e : ConfigError) : ∃ rest, e.message = e.key ++ rest := by
  cases e with
  | noConcurrency => exact ⟨" must be greater than zero", by decide⟩
  | integer key cause value => exact ⟨_, by simp only [message, String.append_assoc]; rfl⟩
  | flag key value => exact ⟨_, by simp only [message, String.append_assoc]; rfl⟩
  | address key value => exact ⟨_, by simp only [message, String.append_assoc]; rfl⟩

def withoutValue : ConfigError → ConfigError
  | integer key cause _ => integer key cause ""
  | noConcurrency => noConcurrency
  | flag key _ => flag key ""
  | address key _ => address key ""

end ConfigError

namespace Config

section Reading

variable {α : Type} {lookup lookup' : Lookup} {key : String} {means : List Char → α → Prop}
  {read : String → Except ConfigError α} {fallback a : α} {value : String}

/-- What a variable says. One that is unset or blank says the fallback. -/
inductive Says (lookup : Lookup) (key : String) (means : List Char → α → Prop) (fallback : α) :
    α → Prop
  | unset (h : lookup key = none) : Says lookup key means fallback fallback
  | blank {value : String} (h : lookup key = some value) (hb : Text.Blank value.toList) :
      Says lookup key means fallback fallback
  | given {value : String} {a : α} (h : lookup key = some value) (hb : ¬Text.Blank value.toList)
      (hm : means (Text.trim value.toList) a) : Says lookup key means fallback a

def Acceptable (lookup : Lookup) (key : String) (means : List Char → α → Prop) : Prop :=
  ∀ value, lookup key = some value → Text.Blank value.toList ∨
    ∃ a, means (Text.trim value.toList) a

theorem exists_says_iff :
    (∃ a, Says lookup key means fallback a) ↔ Acceptable lookup key means := by
  constructor
  · rintro ⟨a, h⟩ value hv
    cases h with
    | unset h => cases h.symm.trans hv
    | blank h hb =>
      obtain rfl := Option.some.inj (h.symm.trans hv)
      exact .inl hb
    | given h hb hm =>
      obtain rfl := Option.some.inj (h.symm.trans hv)
      exact .inr ⟨a, hm⟩
  · intro h
    cases hv : lookup key with
    | none => exact ⟨fallback, .unset hv⟩
    | some value =>
      by_cases hb : Text.Blank value.toList
      · exact ⟨fallback, .blank hv hb⟩
      · obtain ⟨a, hm⟩ := (h value hv).resolve_left hb
        exact ⟨a, .given hv hb hm⟩

theorem set?_eq_some_iff :
    set? lookup key = some value ↔ lookup key = some value ∧ ¬Text.Blank value.toList := by
  rw [set?, Option.filter_eq_some_iff, Bool.not_eq_true', ← Bool.not_eq_true, Text.allBlank_iff]

theorem set?_eq_none_iff :
    set? lookup key = none ↔ ∀ value, lookup key = some value → Text.Blank value.toList := by
  rw [Option.eq_none_iff_forall_ne_some]
  simp only [ne_eq, set?_eq_some_iff, not_and, not_not]

structure Reads (key : String) (means : List Char → α → Prop)
    (read : String → Except ConfigError α) : Prop where
  ok : ∀ value a, read value = .ok a ↔ means (Text.trim value.toList) a
  error : ∀ value e, read value = .error e → e.key = key

theorem Reads.readOr_eq_ok_iff (h : Reads key means read) :
    readOr lookup key read fallback = .ok a ↔ Says lookup key means fallback a := by
  unfold readOr
  cases hs : set? lookup key with
  | none =>
    have hblank := set?_eq_none_iff.1 hs
    rw [Except.ok.injEq]
    constructor
    · rintro rfl
      cases hv : lookup key with
      | none => exact .unset hv
      | some value => exact .blank hv (hblank value hv)
    · intro hsays
      cases hsays with
      | unset => rfl
      | blank => rfl
      | given hv hb => exact absurd (hblank _ hv) hb
  | some value =>
    obtain ⟨hv, hb⟩ := set?_eq_some_iff.1 hs
    refine (h.ok value a).trans ⟨.given hv hb, fun hsays => ?_⟩
    cases hsays with
    | unset hv' => cases hv'.symm.trans hv
    | blank hv' hb' =>
      obtain rfl := Option.some.inj (hv'.symm.trans hv)
      exact absurd hb' hb
    | given hv' _ hm =>
      obtain rfl := Option.some.inj (hv'.symm.trans hv)
      exact hm

/-- Another variable has no say. -/
theorem Reads.unique (h : Reads key means read) (hk : lookup' key = lookup key) {b : α}
    (ha : Says lookup key means fallback a) (hb : Says lookup' key means fallback b) : b = a := by
  have hsame : readOr lookup' key read fallback = readOr lookup key read fallback := by
    rw [readOr, readOr, set?, set?, hk]
  exact Except.ok.inj (h.readOr_eq_ok_iff.2 hb |>.symm.trans
    (hsame.trans (h.readOr_eq_ok_iff.2 ha)))

theorem Reads.of_readOr_error (h : Reads key means read) {e : ConfigError}
    (he : readOr lookup key read fallback = .error e) :
    e.key = key ∧ ¬Acceptable lookup key means := by
  constructor
  · unfold readOr at he
    split at he
    · exact h.error _ e he
    · cases he
  · intro hacc
    obtain ⟨a, ha⟩ := exists_says_iff.2 hacc
    cases he.symm.trans (h.readOr_eq_ok_iff.2 ha)

end Reading

/-! The five variables, in the order in which they are read. -/

inductive Variable
  | requeueAfter
  | concurrency
  | manifestTimeout
  | insecureSkipVerify
  | probeAddress
deriving DecidableEq

namespace Variable

def order : List Variable :=
  [requeueAfter, concurrency, manifestTimeout, insecureSkipVerify, probeAddress]

def key : Variable → String
  | requeueAfter => "REQUEUE_AFTER_SECS"
  | concurrency => "RECONCILE_CONCURRENCY"
  | manifestTimeout => "MANIFEST_DOWNLOAD_TIMEOUT_SECS"
  | insecureSkipVerify => "INSECURE_SKIP_VERIFY"
  | probeAddress => "PROBE_ADDR"

end Variable

def Word (bits : Nat) (s : List Char) (n : Nat) : Prop := SignedNumeral n s ∧ n < 2 ^ bits

def PositiveWord (bits : Nat) (s : List Char) (n : Nat) : Prop := Word bits s n ∧ 0 < n

def Limit (bits : Nat) (s : List Char) : Option Nat → Prop
  | some n => Word bits s n
  | none => False

def Spelling (s : List Char) (b : Bool) : Prop :=
  String.ofList s ∈ if b then ["1", "t", "T", "TRUE", "true", "True"]
    else ["0", "f", "F", "FALSE", "false", "False"]

def Address (s : List Char) (a : SocketAddress) : Prop := SocketAddress.AddressText a s

section Readers

variable {key value : String}

theorem integer_eq_ok_iff {bits n : Nat} :
    integer key (Nat.pow 2 bits) value = .ok n ↔ Word bits (Text.trim value.toList) n := by
  have hread : integer key (Nat.pow 2 bits) value = .ok n ↔
      readNat (Nat.pow 2 bits) (Text.trim value.toList) = .ok n := by
    unfold integer
    split
    · rename_i h
      rw [h, Except.ok.injEq, Except.ok.injEq]
    · rename_i h
      rw [h]
      exact iff_of_false nofun nofun
  rw [hread, readNat_eq_ok_iff]
  rfl

theorem integer_error {bound : Nat} {e : ConfigError} (h : integer key bound value = .error e) :
    e.key = key := by
  unfold integer at h
  split at h
  · cases h
  · cases h
    rfl

theorem reads_word (key : String) (bits : Nat) :
    Reads key (Word bits) (integer key (Nat.pow 2 bits)) where
  ok _ _ := integer_eq_ok_iff
  error _ _ := integer_error

theorem reads_limit (key : String) (bits : Nat) :
    Reads key (Limit bits) fun value => some <$> integer key (Nat.pow 2 bits) value where
  ok value limit := by
    cases hi : integer key (Nat.pow 2 bits) value with
    | ok n =>
      have hn := integer_eq_ok_iff.1 hi
      cases limit with
      | none => exact iff_of_false nofun id
      | some m =>
        change Except.ok (some n) = .ok (some m) ↔ Word bits _ m
        rw [← integer_eq_ok_iff, hi]
        simp
    | error e =>
      refine iff_of_false nofun fun hl => ?_
      cases limit with
      | none => exact hl
      | some m => cases hi.symm.trans (integer_eq_ok_iff.2 hl)
  error value e h := by
    cases hi : integer key (Nat.pow 2 bits) value with
    | ok n =>
      rw [hi] at h
      cases h
    | error e' =>
      rw [hi] at h
      cases h
      exact integer_error hi

theorem positive_eq_ok_iff {m n : Nat} : positive m = .ok n ↔ m = n ∧ 0 < n := by
  unfold positive
  split
  · rename_i h
    exact iff_of_false nofun fun ⟨hm, hn⟩ => by omega
  · rename_i h
    rw [Except.ok.injEq]
    exact ⟨fun hm => ⟨hm, by omega⟩, And.left⟩

theorem positive_error {n : Nat} {e : ConfigError} (h : positive n = .error e) :
    e = .noConcurrency := by
  unfold positive at h
  split at h
  · exact (Except.error.inj h).symm
  · cases h

theorem reads_positiveWord (bits : Nat) :
    Reads "RECONCILE_CONCURRENCY" (PositiveWord bits) fun value =>
      integer "RECONCILE_CONCURRENCY" (Nat.pow 2 bits) value >>= positive where
  ok value n := by
    simp only [bind_eq_ok_iff, positive_eq_ok_iff, integer_eq_ok_iff]
    exact ⟨fun ⟨m, hm, he, hpos⟩ => ⟨he ▸ hm, hpos⟩, fun ⟨hn, hpos⟩ => ⟨n, hn, rfl, hpos⟩⟩
  error value e h := by
    rcases bind_eq_error_iff.1 h with h | ⟨n, -, h⟩
    · exact integer_error h
    · rw [positive_error h]
      rfl

theorem ofText?_eq_some_iff {s : List Char} {b : Bool} :
    Flag.ofText? (String.ofList s) = some b ↔ Spelling s b := by
  unfold Flag.ofText? Spelling
  generalize String.ofList s = text
  have hdisjoint : text ∈ ["1", "t", "T", "TRUE", "true", "True"] →
      text ∉ ["0", "f", "F", "FALSE", "false", "False"] := by
    intro h
    simp only [List.mem_cons, List.not_mem_nil, or_false] at h
    rcases h with rfl | rfl | rfl | rfl | rfl | rfl <;> decide
  simp only [List.contains_iff_mem]
  split
  · rename_i h
    cases b with
    | true => exact iff_of_true rfl h
    | false => exact iff_of_false nofun (hdisjoint h)
  · rename_i h
    cases b with
    | true => exact iff_of_false (by split <;> nofun) h
    | false => simp [or_iff_not_imp_left]

theorem reads_spelling (key : String) : Reads key Spelling (flag key) where
  ok value b := by
    rw [← ofText?_eq_some_iff, flag, Text.trimmed]
    split <;> rename_i h <;> simp [h]
  error value e h := by
    unfold flag at h
    split at h
    · cases h
    · cases h
      rfl

theorem reads_address (key : String) : Reads key Address (address key) where
  ok value a := by
    rw [Address, ← SocketAddress.ofChars?_eq_some_iff, address]
    split <;> rename_i h <;> simp [h]
  error value e h := by
    unfold address at h
    split at h
    · cases h
    · cases h
      rfl

end Readers

theorem readOr_bind {α β : Type} {lookup : Lookup} {key : String}
    {read : String → Except ConfigError α} {fallback : α} {f : α → Except ConfigError β} {b : β}
    (h : f fallback = .ok b) :
    readOr lookup key read fallback >>= f =
      readOr lookup key (fun value => read value >>= f) b := by
  unfold readOr
  cases set? lookup key with
  | some value => rfl
  | none => exact h

/-- The reading, one step for each variable. -/
theorem load_eq (lookup : Lookup) : load lookup = (do
    let requeueAfter ← readOr lookup "REQUEUE_AFTER_SECS"
      (integer "REQUEUE_AFTER_SECS" (Nat.pow 2 64)) 60
    let concurrency ← readOr lookup "RECONCILE_CONCURRENCY" (fun value =>
      integer "RECONCILE_CONCURRENCY" (Nat.pow 2 16) value >>= positive) 10
    let manifestTimeout ← readOr lookup "MANIFEST_DOWNLOAD_TIMEOUT_SECS"
      (fun value => some <$> integer "MANIFEST_DOWNLOAD_TIMEOUT_SECS" (Nat.pow 2 64) value) none
    let insecureSkipVerify ←
      readOr lookup "INSECURE_SKIP_VERIFY" (flag "INSECURE_SKIP_VERIFY") false
    let probeAddress ← readOr lookup "PROBE_ADDR" (address "PROBE_ADDR") (.v4 ⟨[0, 0, 0, 0]⟩ 8080)
    return {
      watchNamespace := set? lookup "WATCH_NAMESPACE"
      watchFilter := set? lookup "WATCH_FILTER_VALUE"
      insecureSkipVerify, manifestTimeout, requeueAfter, concurrency, probeAddress }) := by
  rw [load]
  refine congrArg (readOr _ _ _ _ >>= ·) (funext fun requeueAfter => ?_)
  have hdefault : positive 10 = .ok 10 := rfl
  rw [← readOr_bind hdefault, bind_assoc]

/-- Taken as it is, white space and all, unless there is nothing else. -/
def Verbatim (lookup : Lookup) (key : String) (text : Option String) : Prop :=
  ∀ value, text = some value ↔ lookup key = some value ∧ ¬Text.Blank value.toList

structure Configured (lookup : Lookup) (c : Config) : Prop where
  requeueAfter : Says lookup "REQUEUE_AFTER_SECS" (Word 64) 60 c.requeueAfter
  concurrency : Says lookup "RECONCILE_CONCURRENCY" (PositiveWord 16) 10 c.concurrency
  manifestTimeout :
    Says lookup "MANIFEST_DOWNLOAD_TIMEOUT_SECS" (Limit 64) none c.manifestTimeout
  insecureSkipVerify : Says lookup "INSECURE_SKIP_VERIFY" Spelling false c.insecureSkipVerify
  probeAddress : Says lookup "PROBE_ADDR" Address (.v4 ⟨[0, 0, 0, 0]⟩ 8080) c.probeAddress
  watchNamespace : Verbatim lookup "WATCH_NAMESPACE" c.watchNamespace
  watchFilter : Verbatim lookup "WATCH_FILTER_VALUE" c.watchFilter

theorem verbatim_iff {lookup : Lookup} {key : String} {text : Option String} :
    Verbatim lookup key text ↔ text = set? lookup key := by
  simp only [Verbatim, ← set?_eq_some_iff]
  exact ⟨fun h => Option.ext h, fun h value => by rw [h]⟩

theorem load_eq_ok_iff {lookup : Lookup} {c : Config} :
    load lookup = .ok c ↔ Configured lookup c := by
  rw [load_eq]
  simp only [bind_eq_ok_iff, (reads_word _ _).readOr_eq_ok_iff,
    (reads_positiveWord _).readOr_eq_ok_iff, (reads_limit _ _).readOr_eq_ok_iff,
    (reads_spelling _).readOr_eq_ok_iff, (reads_address _).readOr_eq_ok_iff]
  constructor
  · rintro ⟨_, h₁, _, h₂, _, h₃, _, h₄, _, h₅, h⟩
    obtain rfl := Except.ok.inj h
    exact ⟨h₁, h₂, h₃, h₄, h₅, verbatim_iff.2 rfl, verbatim_iff.2 rfl⟩
  · intro h
    refine ⟨_, h.requeueAfter, _, h.concurrency, _, h.manifestTimeout, _, h.insecureSkipVerify, _,
      h.probeAddress, ?_⟩
    rw [← verbatim_iff.1 h.watchNamespace, ← verbatim_iff.1 h.watchFilter]
    rfl

namespace Variable

def Valid (lookup : Lookup) : Variable → Prop
  | requeueAfter => Acceptable lookup "REQUEUE_AFTER_SECS" (Word 64)
  | concurrency => Acceptable lookup "RECONCILE_CONCURRENCY" (PositiveWord 16)
  | manifestTimeout => Acceptable lookup "MANIFEST_DOWNLOAD_TIMEOUT_SECS" (Limit 64)
  | insecureSkipVerify => Acceptable lookup "INSECURE_SKIP_VERIFY" Spelling
  | probeAddress => Acceptable lookup "PROBE_ADDR" Address

end Variable

theorem exists_load_iff {lookup : Lookup} :
    (∃ c, load lookup = .ok c) ↔ ∀ v : Variable, v.Valid lookup := by
  simp only [load_eq_ok_iff]
  constructor
  · rintro ⟨c, h⟩ v
    cases v with
    | requeueAfter => exact exists_says_iff.1 ⟨_, h.requeueAfter⟩
    | concurrency => exact exists_says_iff.1 ⟨_, h.concurrency⟩
    | manifestTimeout => exact exists_says_iff.1 ⟨_, h.manifestTimeout⟩
    | insecureSkipVerify => exact exists_says_iff.1 ⟨_, h.insecureSkipVerify⟩
    | probeAddress => exact exists_says_iff.1 ⟨_, h.probeAddress⟩
  · intro h
    obtain ⟨requeueAfter, h₁⟩ := exists_says_iff.2 (h .requeueAfter)
    obtain ⟨concurrency, h₂⟩ := exists_says_iff.2 (h .concurrency)
    obtain ⟨manifestTimeout, h₃⟩ := exists_says_iff.2 (h .manifestTimeout)
    obtain ⟨insecureSkipVerify, h₄⟩ := exists_says_iff.2 (h .insecureSkipVerify)
    obtain ⟨probeAddress, h₅⟩ := exists_says_iff.2 (h .probeAddress)
    exact ⟨⟨_, _, insecureSkipVerify, manifestTimeout, requeueAfter, concurrency, probeAddress⟩,
      h₁, h₂, h₃, h₄, h₅, verbatim_iff.2 rfl, verbatim_iff.2 rfl⟩

def Blames (lookup : Lookup) (v : Variable) : Prop :=
  ∃ before after, Variable.order = before ++ v :: after ∧ (∀ w ∈ before, w.Valid lookup) ∧
    ¬v.Valid lookup

theorem load_error {lookup : Lookup} {e : ConfigError} (h : load lookup = .error e) :
    ∃ v : Variable, Blames lookup v ∧ e.key = v.key := by
  rw [load_eq] at h
  simp only [bind_eq_error_iff] at h
  have hvalid {α : Type} {key : String} {means : List Char → α → Prop}
      {read : String → Except ConfigError α} {fallback a : α} (hr : Reads key means read)
      (hx : readOr lookup key read fallback = .ok a) : Acceptable lookup key means :=
    exists_says_iff.1 ⟨a, hr.readOr_eq_ok_iff.1 hx⟩
  rcases h with h | ⟨_, h₁, h⟩
  · obtain ⟨hkey, hnot⟩ := (reads_word _ 64).of_readOr_error h
    exact ⟨.requeueAfter, ⟨[], _, rfl, by simp, hnot⟩, hkey⟩
  have h₁ : Variable.requeueAfter.Valid lookup := hvalid (reads_word _ 64) h₁
  rcases h with h | ⟨_, h₂, h⟩
  · obtain ⟨hkey, hnot⟩ := (reads_positiveWord 16).of_readOr_error h
    exact ⟨.concurrency, ⟨[.requeueAfter], _, rfl, by simp [h₁], hnot⟩, hkey⟩
  have h₂ : Variable.concurrency.Valid lookup := hvalid (reads_positiveWord 16) h₂
  rcases h with h | ⟨_, h₃, h⟩
  · obtain ⟨hkey, hnot⟩ := (reads_limit _ 64).of_readOr_error h
    exact ⟨.manifestTimeout, ⟨[.requeueAfter, .concurrency], _, rfl, by simp [h₁, h₂], hnot⟩, hkey⟩
  have h₃ : Variable.manifestTimeout.Valid lookup := hvalid (reads_limit _ 64) h₃
  rcases h with h | ⟨_, h₄, h⟩
  · obtain ⟨hkey, hnot⟩ := (reads_spelling _).of_readOr_error h
    exact ⟨.insecureSkipVerify, ⟨[.requeueAfter, .concurrency, .manifestTimeout], _, rfl,
      by simp [h₁, h₂, h₃], hnot⟩, hkey⟩
  have h₄ : Variable.insecureSkipVerify.Valid lookup := hvalid (reads_spelling _) h₄
  rcases h with h | ⟨_, _, h⟩
  · obtain ⟨hkey, hnot⟩ := (reads_address _).of_readOr_error h
    exact ⟨.probeAddress, ⟨[.requeueAfter, .concurrency, .manifestTimeout, .insecureSkipVerify], _,
      rfl, by simp [h₁, h₂, h₃, h₄], hnot⟩, hkey⟩
  · cases h

/-! What the reading does not see. -/

theorem load_congr {lookup lookup' : Lookup} (h : ∀ key, set? lookup' key = set? lookup key) :
    load lookup' = load lookup := by
  unfold load readOr
  simp only [h]

def Cleared (lookup lookup' : Lookup) : Prop :=
  ∀ key, lookup' key = lookup key ∨
    lookup' key = none ∧ ∃ value, lookup key = some value ∧ Text.Blank value.toList

theorem load_cleared {lookup lookup' : Lookup} (h : Cleared lookup lookup') :
    load lookup' = load lookup := by
  refine load_congr fun key => ?_
  rcases h key with hk | ⟨hk, value, hv, hb⟩
  · rw [set?, set?, hk]
  · have hnone : set? lookup key = none :=
      set?_eq_none_iff.2 fun other ho => Option.some.inj (hv.symm.trans ho) ▸ hb
    rw [hnone, set?, hk]
    rfl

structure Respaced (lookup lookup' : Lookup) : Prop where
  parsed (v : Variable) : Option.Rel (fun s t : String => Text.Respaced s.toList t.toList)
    (lookup v.key) (lookup' v.key)
  others (key : String) (h : ∀ v : Variable, v.key ≠ key) : lookup' key = lookup key

section Respaced

variable {α : Type} {key : String} {read : String → Except ConfigError α} {lookup lookup' : Lookup}

def Alike (x y : Except ConfigError α) : Prop :=
  y.mapError ConfigError.withoutValue = x.mapError ConfigError.withoutValue

theorem Alike.bind {β : Type} {x y : Except ConfigError α} {f g : α → Except ConfigError β}
    (hx : Alike x y) (hf : ∀ a, Alike (f a) (g a)) : Alike (x >>= f) (y >>= g) := by
  have hbind (x : Except ConfigError α) (f : α → Except ConfigError β) :
      (x >>= f).mapError ConfigError.withoutValue = x.mapError ConfigError.withoutValue >>=
        fun a => (f a).mapError ConfigError.withoutValue := by
    cases x <;> rfl
  have hf : (fun a => (g a).mapError ConfigError.withoutValue) =
      fun a => (f a).mapError ConfigError.withoutValue := funext hf
  rw [Alike, hbind, hbind, hx, hf]

def Tolerant (read : String → Except ConfigError α) : Prop :=
  ∀ s t : String, Text.trim t.toList = Text.trim s.toList → Alike (read s) (read t)

theorem tolerant_integer (key : String) (bound : Nat) : Tolerant (integer key bound) := by
  intro s t h
  rw [Alike, integer, integer, h]
  cases readNat bound (Text.trim s.toList) <;> rfl

theorem tolerant_flag (key : String) : Tolerant (flag key) := by
  intro s t h
  rw [Alike, flag, flag, Text.trimmed, Text.trimmed, h]
  cases Flag.ofText? (String.ofList (Text.trim s.toList)) <;> rfl

theorem tolerant_address (key : String) : Tolerant (address key) := by
  intro s t h
  rw [Alike, address, address, h]
  cases SocketAddress.ofChars? (Text.trim s.toList) <;> rfl

theorem Tolerant.bind {β : Type} (hr : Tolerant read) (f : α → Except ConfigError β) :
    Tolerant fun value => read value >>= f := fun s t h => (hr s t h).bind fun _ => rfl

theorem Tolerant.map {β : Type} (hr : Tolerant read) (f : α → β) :
    Tolerant fun value => f <$> read value := by
  simp only [map_eq_pure_bind]
  exact hr.bind _

theorem Tolerant.readOr (hr : Tolerant read) (fallback : α)
    (h : Option.Rel (fun s t : String => Text.Respaced s.toList t.toList) (lookup key)
      (lookup' key)) :
    Alike (readOr lookup key read fallback) (readOr lookup' key read fallback) := by
  unfold Config.readOr set?
  generalize lookup key = x, lookup' key = y at h
  cases h with
  | none => rfl
  | @some s t hst =>
    have hblank : Text.allBlank t = Text.allBlank s := by
      rw [Bool.eq_iff_iff, Text.allBlank_iff, Text.allBlank_iff, hst.blank_iff]
    rw [Option.filter_some, Option.filter_some, hblank]
    cases Text.allBlank s with
    | true => rfl
    | false => exact hr s t hst.trim_eq

theorem load_respaced (h : Respaced lookup lookup') : Alike (load lookup) (load lookup') := by
  have hother {key : String} (hk : ∀ v : Variable, v.key ≠ key) :
      set? lookup' key = set? lookup key := by
    rw [set?, set?, h.others key hk]
  have hnamespace : set? lookup' "WATCH_NAMESPACE" = set? lookup "WATCH_NAMESPACE" :=
    hother fun v => by cases v <;> decide
  have hfilter : set? lookup' "WATCH_FILTER_VALUE" = set? lookup "WATCH_FILTER_VALUE" :=
    hother fun v => by cases v <;> decide
  rw [load_eq, load_eq, hnamespace, hfilter]
  refine ((tolerant_integer _ _).readOr 60 (h.parsed .requeueAfter)).bind fun _ => ?_
  refine (((tolerant_integer _ _).bind positive).readOr 10 (h.parsed .concurrency)).bind fun _ => ?_
  refine (((tolerant_integer _ _).map some).readOr none
    (h.parsed .manifestTimeout)).bind fun _ => ?_
  refine ((tolerant_flag _).readOr false (h.parsed .insecureSkipVerify)).bind fun _ => ?_
  exact ((tolerant_address _).readOr _ (h.parsed .probeAddress)).bind fun _ => rfl

end Respaced

def Variable.Agree (c c' : Config) : Variable → Prop
  | requeueAfter => c'.requeueAfter = c.requeueAfter
  | concurrency => c'.concurrency = c.concurrency
  | manifestTimeout => c'.manifestTimeout = c.manifestTimeout
  | insecureSkipVerify => c'.insecureSkipVerify = c.insecureSkipVerify
  | probeAddress => c'.probeAddress = c.probeAddress

theorem Configured.agree {lookup lookup' : Lookup} {c c' : Config} (h : Configured lookup c)
    (h' : Configured lookup' c') {v : Variable} (hv : lookup' v.key = lookup v.key) :
    v.Agree c c' := by
  cases v with
  | requeueAfter => exact (reads_word _ 64).unique hv h.requeueAfter h'.requeueAfter
  | concurrency => exact (reads_positiveWord 16).unique hv h.concurrency h'.concurrency
  | manifestTimeout => exact (reads_limit _ 64).unique hv h.manifestTimeout h'.manifestTimeout
  | insecureSkipVerify =>
    exact (reads_spelling _).unique hv h.insecureSkipVerify h'.insecureSkipVerify
  | probeAddress => exact (reads_address _).unique hv h.probeAddress h'.probeAddress

/-- A configuration is read just if each of the five variables is unset, blank or of its kind, and
each of its fields is then what its own variable says; else the first variable in order that is not
of its kind is reported. Blank values are as good as unset ones, and white space around a value
changes at most the value that an error quotes. -/
theorem load_accepts (lookup : Lookup) :
    (∀ c, load lookup = .ok c ↔ Configured lookup c) ∧
    ((∃ c, load lookup = .ok c) ↔ ∀ v : Variable, v.Valid lookup) ∧
    (∀ e, load lookup = .error e → ∃ v : Variable, Blames lookup v ∧ e.key = v.key ∧
      ∃ rest, e.message = v.key ++ rest) ∧
    (∀ lookup' c c', load lookup = .ok c → load lookup' = .ok c' →
      ∀ v : Variable, lookup' v.key = lookup v.key → v.Agree c c') ∧
    (∀ lookup', Cleared lookup lookup' → load lookup' = load lookup) ∧
    ∀ lookup', Respaced lookup lookup' → Alike (load lookup) (load lookup') := by
  refine ⟨fun c => load_eq_ok_iff, exists_load_iff, fun e he => ?_, fun lookup' c c' hc hc' v hv =>
    (load_eq_ok_iff.1 hc).agree (load_eq_ok_iff.1 hc') hv, fun _ => load_cleared,
    fun _ => load_respaced⟩
  obtain ⟨v, hblames, hkey⟩ := load_error he
  obtain ⟨rest, hmessage⟩ := e.message_eq
  exact ⟨v, hblames, hkey, rest, hkey ▸ hmessage⟩

def pondVariables (requeueAfter : String) (concurrency : Option String) : Lookup
  | "REQUEUE_AFTER_SECS" => some requeueAfter
  | "RECONCILE_CONCURRENCY" => concurrency
  | "PROBE_ADDR" => some "[::1]:80"
  | "WATCH_NAMESPACE" => some " pond"
  | _ => none

def drainedVariables : Lookup
  | "RECONCILE_CONCURRENCY" => some "0"
  | "PROBE_ADDR" => some "localhost"
  | _ => none

def pondConfig : Config where
  watchNamespace := some " pond"
  watchFilter := none
  insecureSkipVerify := false
  manifestTimeout := none
  requeueAfter := 90
  concurrency := 10
  probeAddress := .v6 ⟨[0, 0, 0, 0, 0, 0, 0, 1]⟩ 0 80

theorem respaced_pondVariables :
    Respaced (pondVariables " +90\n" (some " ")) (pondVariables "+90" (some "")) where
  parsed v := by
    cases v with
    | requeueAfter =>
      exact .some ⟨['+', '9', '0'], [' '], ['\n'], [], [], rfl, rfl, by decide⟩
    | concurrency => exact .some ⟨[], [' '], [], [], [], rfl, rfl, by decide⟩
    | manifestTimeout => exact .none
    | insecureSkipVerify => exact .none
    | probeAddress => exact .some ⟨"[::1]:80".toList, [], [], [], [], rfl, rfl, by decide⟩
  others key h := by
    unfold pondVariables
    split
    · exact absurd rfl (h .requeueAfter)
    · exact absurd rfl (h .concurrency)
    all_goals rfl

theorem cleared_pondVariables :
    Cleared (pondVariables "+90" (some "")) (pondVariables "+90" none) := by
  intro key
  unfold pondVariables
  split
  · exact .inl rfl
  · exact .inr ⟨rfl, "", rfl, by decide⟩
  all_goals exact .inl rfl

theorem load_accepts_pond :
    Configured (pondVariables " +90\n" (some " ")) pondConfig ∧
      Alike (.ok pondConfig) (load (pondVariables "+90" (some ""))) ∧
      load (pondVariables "+90" none) = load (pondVariables "+90" (some "")) ∧
      Variable.requeueAfter.Agree pondConfig pondConfig ∧
      ∃ v : Variable, Blames drainedVariables v ∧ v.key = "RECONCILE_CONCURRENCY" := by
  have hload : load (pondVariables " +90\n" (some " ")) = .ok pondConfig := by decide +kernel
  have hset : load (pondVariables " +90\n" none) = .ok pondConfig := by decide +kernel
  have hdrained : load drainedVariables = .error .noConcurrency := by decide +kernel
  obtain ⟨hiff, -, -, hagree, -, hrespaced⟩ := load_accepts (pondVariables " +90\n" (some " "))
  obtain ⟨-, -, -, -, hcleared, -⟩ := load_accepts (pondVariables "+90" (some ""))
  obtain ⟨-, -, herror, -⟩ := load_accepts drainedVariables
  obtain ⟨v, hblames, hkey, -⟩ := herror _ hdrained
  exact ⟨(hiff _).1 hload, hload ▸ hrespaced _ respaced_pondVariables,
    hcleared _ cleared_pondVariables, hagree _ _ _ hload hset .requeueAfter rfl, v, hblames,
    hkey.symm⟩

end Config

end ClusterImport
