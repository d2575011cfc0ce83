import ClusterImport.Integer
/-!
Socket addresses: an IPv4 address and a port, or an IPv6 address in brackets with an optional
numeric scope and a port. Each reading step returns the text that follows.
-/
namespace ClusterImport

structure Ipv4 where
  octets : List Nat
deriving DecidableEq, Repr

structure Ipv6 where
  groups : List Nat
deriving DecidableEq, Repr

inductive SocketAddress
  | v4 (address : Ipv4) (port : Nat)
  | v6 (address : Ipv6) (scope : Nat) (port : Nat)
deriving DecidableEq, Repr

namespace SocketAddress

def isDigitIn (base : Nat) (c : Char) : Bool := (digitIn? base c).isSome

def number? (base bound : Nat) (s : List Char) : Option (Nat × List Char) :=
  let ds := s.takeWhile (isDigitIn base)
  let n := digitsValue base (ds.filterMap (digitIn? base))
  if ds.isEmpty || bound ≤ n then none else some (n, s.dropWhile (isDigitIn base))

/-- At most three digits, and no zero before another digit. -/
def octet? (s : List Char) : Option (Nat × List Char) :=
  let ds := s.takeWhile (isDigitIn 10)
  if ds.length > 3 || (ds.length > 1 && ds.head? == some '0') then none else number? 10 256 s

def given? (c : Char) : List Char → Option (List Char)
  | d :: rest => if c = d then some rest else none
  | [] => none

def ipv4? (s : List Char) : Option (Ipv4 × List Char) := do
  let (a, s) ← octet? s
  let (b, s) ← octet? (← given? '.' s)
  let (c, s) ← octet? (← given? '.' s)
  let (d, s) ← octet? (← given? '.' s)
  some (⟨[a, b, c, d]⟩, s)

def group? (s : List Char) : Option (Nat × List Char) :=
  if (s.takeWhile (isDigitIn 16)).length > 4 then none else number? 16 65536 s

def afterColon (first : Bool) (s : List Char) : Option (List Char) :=
  if first then some s else given? ':' s

def groupsOf (a : Ipv4) : List Nat :=
  match a.octets with
  | [a, b, c, d] => [a * 256 + b, c * 256 + d]
  | _ => []

/-- At most `room` groups, with whether they end in an IPv4 address, and what follows. An IPv4
address needs room for two groups. -/
def groups : (room : Nat) → (first : Bool) → List Char → List Nat × Bool × List Char
  | 0, _, s => ([], false, s)
  | room + 1, first, s =>
    let tail := if room = 0 then none else (afterColon first s).bind ipv4?
    match tail with
    | some (a, rest) => (groupsOf a, true, rest)
    | none =>
      match (afterColon first s).bind group? with
      | none => ([], false, s)
      | some (g, rest) =>
        let (gs, embedded, rest) := groups room false rest
        (g :: gs, embedded, rest)

def ipv6? (s : List Char) : Option (Ipv6 × List Char) := do
  let (head, embedded, s) := groups 8 true s
  if head.length = 8 then return (⟨head⟩, s)
  if embedded then none
  let s ← given? ':' (← given? ':' s)
  let (tail, _, s) := groups (7 - head.length) true s
  some (⟨head ++ List.replicate (8 - head.length - tail.length) 0 ++ tail⟩, s)

def port? (s : List Char) : Option (Nat × List Char) := do number? 10 65536 (← given? ':' s)

def v4? (s : List Char) : Option (SocketAddress × List Char) := do
  let (a, s) ← ipv4? s
  let (port, s) ← port? s
  some (.v4 a port, s)

/-- Without a readable scope the scope is zero. -/
def scope (s : List Char) : Nat × List Char :=
  ((given? '%' s).bind (number? 10 (Nat.pow 2 32))).getD (0, s)

def v6? (s : List Char) : Option (SocketAddress × List Char) := do
  let (a, s) ← ipv6? (← given? '[' s)
  let (scope, s) := scope s
  let (port, s) ← port? (← given? ']' s)
  some (.v6 a scope port, s)

def ofChars? (s : List Char) : Option SocketAddress :=
  match (v4? s).or (v6? s) with
  | some (a, []) => some a
  | _ => none

end SocketAddress

def Ipv4.render (a : Ipv4) : String := ".".intercalate (a.octets.map toString)

namespace Ipv6

def zeroRun (gs : List Nat) : Nat := (gs.takeWhile (· == 0)).length

def longestRun : (start : Nat) → List Nat → Nat × Nat
  | _, [] => (0, 0)
  | start, g :: gs =>
    let here := zeroRun (g :: gs)
    let later := longestRun (start + 1) gs
    if here = 0 || here < later.2 then later else (start, here)

def hex (gs : List Nat) : String :=
  ":".intercalate (gs.map fun g => String.ofList (Nat.toDigits 16 g))

def render (a : Ipv6) : String :=
  match a.groups with
  | [0, 0, 0, 0, 0, 0xffff, x, y] =>
    "::ffff:" ++ Ipv4.render ⟨[x / 256, x % 256, y / 256, y % 256]⟩
  | gs =>
    let (start, length) := longestRun 0 gs
    if length < 2 then hex gs
    else hex (gs.take start) ++ "::" ++ hex (gs.drop (start + length))

end Ipv6

/-- The address as configuration shows it: a run of zero groups is shortened and no scope is shown
for zero. -/
def SocketAddress.render : SocketAddress → String
  | .v4 a port => s!"{a.render}:{port}"
  | .v6 a 0 port => s!"[{a.render}]:{port}"
  | .v6 a scope port => s!"[{a.render}%{scope}]:{port}"

end ClusterImport
