import ClusterImport.Decimal.Binary64
/-!
The shortest decimal that reads back as a given binary number, and its layouts. For one digit, then
two, up to seventeen, the two neighbours of the number on that decimal grid are tested against the
interval of reals that round to it; the first grid with a hit wins, and of two hits the nearer.
-/
namespace ClusterImport

structure Decimal where
  digits : Nat
  exponent : Int
deriving DecidableEq, Repr

namespace Decimal

def normalize : Nat → Decimal → Decimal
  | 0, d => d
  | n + 1, d =>
    if d.digits ≠ 0 && d.digits % 10 = 0 then normalize n ⟨d.digits / 10, d.exponent + 1⟩ else d

/-- How many digits stand before the point; zero or less for a number below one tenth. -/
def magnitude (m : Nat) (q : Int) : Int :=
  let scaled := m * Nat.pow 10 400 * Nat.pow 2 q.toNat / Nat.pow 2 (-q).toNat
  ((Nat.toDigits 10 scaled).length : Int) - 400

/-- The neighbour of `m * 2 ^ q` on the grid of `10 ^ k` that reads back as it. Reals are counted in
quarters of `2 ^ q`, so that both ends of the interval are whole. -/
def onGrid (m : Nat) (q : Int) (k : Int) : Option Decimal :=
  let low := if m = Nat.pow 2 52 && q > -1074 then 4 * m - 1 else 4 * m - 2
  let high := 4 * m + 2
  let p := Nat.pow 10 k.toNat * Nat.pow 2 (2 - q).toNat
  let r := Nat.pow 10 (-k).toNat * Nat.pow 2 (q - 2).toNat
  let below := 4 * m * r / p
  let within (c : Nat) : Bool :=
    if m % 2 = 0 then low * r ≤ c * p && c * p ≤ high * r else low * r < c * p && c * p < high * r
  let down := 4 * m * r - below * p
  let up := (below + 1) * p - 4 * m * r
  match within below, within (below + 1) with
  | false, false => none
  | true, false => some ⟨below, k⟩
  | false, true => some ⟨below + 1, k⟩
  | true, true =>
    if down < up || (down = up && below % 2 = 0) then some ⟨below, k⟩ else some ⟨below + 1, k⟩

def shortest (x : Binary64) : Decimal :=
  if x.isZero then ⟨0, 0⟩ else
  let size := magnitude x.significand x.exponent
  let found := (List.range 17).findSome? fun (i : Nat) =>
    onGrid x.significand x.exponent (size - (i + 1))
  normalize 17 (found.getD ⟨0, 0⟩)

structure Layout where
  /-- Whether a number whose first digit stands at this power of ten is written positionally. -/
  positional : Int → Bool
  keepsPoint : Bool

def zeros (n : Nat) : List Char := List.replicate n '0'

def positionalText (keepsPoint : Bool) (ds : List Char) (exponent : Int) : List Char :=
  if 0 ≤ exponent then ds ++ zeros exponent.toNat ++ (if keepsPoint then ['.', '0'] else [])
  else
    let places := (-exponent).toNat
    if places < ds.length then
      ds.take (ds.length - places) ++ '.' :: ds.drop (ds.length - places)
    else '0' :: '.' :: zeros (places - ds.length) ++ ds

def exponentText (e : Int) : List Char :=
  'e' :: (if e < 0 then '-' else '+') :: Nat.toDigits 10 e.natAbs

def scientificText (ds : List Char) (e : Int) : List Char :=
  match ds with
  | [] => []
  | [d] => d :: exponentText e
  | d :: rest => d :: '.' :: rest ++ exponentText e

def Layout.text (layout : Layout) (x : Binary64) : List Char :=
  let d := shortest x
  let ds := Nat.toDigits 10 d.digits
  let first := d.exponent + ds.length - 1
  let body :=
    if layout.positional first then positionalText layout.keepsPoint ds d.exponent
    else scientificText ds first
  if x.negative then '-' :: body else body

end Decimal

end ClusterImport
