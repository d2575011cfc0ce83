/-!
Finite binary numbers of 64 bits, as exact pairs of a significand and a power of two. A ratio of
natural numbers is rounded to the nearest of them, a tie to the even significand; a decimal text
reads as the nearest number, and a sum is rounded once.
-/
namespace ClusterImport

/-- The number `± significand * 2 ^ exponent`. The significand has 53 bits, or fewer at the least
exponent `-1074`. -/
structure Binary64 where
  negative : Bool
  significand : Nat
  exponent : Int
deriving DecidableEq, Repr

namespace Binary64

def zero (negative : Bool) : Binary64 := ⟨negative, 0, -1074⟩

instance : Inhabited Binary64 := ⟨zero false⟩

def isZero (x : Binary64) : Bool := x.significand == 0

def eqv (x y : Binary64) : Bool := (x.isZero && y.isZero) || x == y

/-- The quotient to the nearest integer, a tie to the even one. -/
def roundDiv (num den : Nat) : Nat :=
  let q := num / den
  let r := num % den
  if 2 * r < den then q else if den < 2 * r then q + 1 else q + q % 2

def shifted (num den : Nat) (e : Int) : Nat × Nat :=
  (num * Nat.pow 2 (-e).toNat, den * Nat.pow 2 e.toNat)

/-- The exponent at which `num / den` has a significand of 53 bits. -/
def scaleOf (num den : Nat) : Int :=
  let e := (num.log2 : Int) - den.log2
  let (n, d) := shifted num den e
  if d ≤ n then e - 52 else e - 53

def ofRatio (negative : Bool) (num den : Nat) : Option Binary64 :=
  if num = 0 then some (zero negative) else
  let e := max (scaleOf num den) (-1074)
  let (n, d) := shifted num den e
  let m := roundDiv n d
  let (m, e) := if m = Nat.pow 2 53 then (Nat.pow 2 52, e + 1) else (m, e)
  if e > 971 then none
  else if m = 0 then some (zero negative)
  else some ⟨negative, m, e⟩

def ofNat? (n : Nat) : Option Binary64 := ofRatio false n 1

def ofDecimal (negative : Bool) (digits : Nat) (exponent : Int) : Option Binary64 :=
  if digits = 0 then some (zero negative) else
  let size := (Nat.toDigits 10 digits).length + exponent
  if size > 400 then none
  else if size < -400 then some (zero negative)
  else ofRatio negative (digits * Nat.pow 10 exponent.toNat) (Nat.pow 10 (-exponent).toNat)

def alignedTo (x : Binary64) (e : Int) : Int :=
  let m : Int := x.significand * Int.pow 2 (x.exponent - e).toNat
  if x.negative then -m else m

/-- The sum rounded once. A sum of zero is negative only if both terms are. -/
def add (x y : Binary64) : Option Binary64 :=
  let e := min x.exponent y.exponent
  let sum := x.alignedTo e + y.alignedTo e
  let negative := if sum = 0 then x.negative && y.negative else sum < 0
  ofRatio negative (sum.natAbs * Nat.pow 2 e.toNat) (Nat.pow 2 (-e).toNat)

def le (x y : Binary64) : Bool :=
  let e := min x.exponent y.exponent
  x.alignedTo e ≤ y.alignedTo e

end Binary64

end ClusterImport
