import ClusterImport.Decimal.Binary64
/-!
Decimal number texts: an optional sign, digits, an optional fraction and an optional exponent. A
format adds its own conditions on which parts may be empty.
-/
namespace ClusterImport

def digitsValue (base : Nat) (ds : List Nat) : Nat := ds.foldl (fun n d => n * base + d) 0

def digitOf? (c : Char) : Option Nat :=
  if '0' ≤ c && c ≤ '9' then some (c.toNat - 48)
  else if 'a' ≤ c && c ≤ 'z' then some (c.toNat - 87)
  else if 'A' ≤ c && c ≤ 'Z' then some (c.toNat - 55)
  else none

def digitIn? (base : Nat) (c : Char) : Option Nat := (digitOf? c).filter (· < base)

def decimalValue (s : List Char) : Nat := digitsValue 10 (s.filterMap (digitIn? 10))

structure NumberText where
  sign : Option Char
  whole : List Char
  fraction : Option (List Char)
  /-- Whether the exponent is negative, and its digits. -/
  exponent : Option (Bool × List Char)
deriving DecidableEq, Repr

namespace NumberText

def takeSign : List Char → Option Char × List Char
  | '-' :: rest => (some '-', rest)
  | '+' :: rest => (some '+', rest)
  | rest => (none, rest)

def takeFraction : List Char → Option (List Char) × List Char
  | '.' :: rest => (some (rest.takeWhile Char.isDigit), rest.dropWhile Char.isDigit)
  | rest => (none, rest)

def takeExponent : List Char → Option (Bool × List Char) × List Char
  | c :: rest =>
    if c = 'e' || c = 'E' then
      let (sign, digits) := takeSign rest
      (some (sign == some '-', digits.takeWhile Char.isDigit), digits.dropWhile Char.isDigit)
    else (none, c :: rest)
  | [] => (none, [])

def ofChars? (s : List Char) : Option NumberText :=
  let (sign, s) := takeSign s
  let whole := s.takeWhile Char.isDigit
  let (fraction, s) := takeFraction (s.dropWhile Char.isDigit)
  let (exponent, s) := takeExponent s
  if s.isEmpty then some ⟨sign, whole, fraction, exponent⟩ else none

def isNegative (t : NumberText) : Bool := t.sign == some '-'

def isInteger (t : NumberText) : Bool := t.fraction.isNone && t.exponent.isNone

def hasDigits (t : NumberText) : Bool :=
  (!t.whole.isEmpty || (t.fraction.any (!·.isEmpty))) && t.exponent.all (!·.2.isEmpty)

def binary64? (t : NumberText) : Option Binary64 :=
  let fraction := t.fraction.getD []
  let exponent : Int := match t.exponent with
    | none => 0
    | some (true, ds) => -(decimalValue ds : Int)
    | some (false, ds) => decimalValue ds
  Binary64.ofDecimal t.isNegative (decimalValue (t.whole ++ fraction)) (exponent - fraction.length)

end NumberText

end ClusterImport
