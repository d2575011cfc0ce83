import ClusterImport.Dict
import ClusterImport.Decimal.Binary64
/-!
JSON values. Members of an object stand in ascending order of their keys, each key once; numbers are
integers or binary floating-point numbers, and the two kinds are never equal.
-/
namespace ClusterImport

inductive Number
  | int (value : Int)
  | float (value : Binary64)
deriving DecidableEq, Repr

namespace Number

def eqv : Number → Number → Bool
  | int a, int b => a == b
  | float a, float b => a.eqv b
  | _, _ => false

end Number

inductive Json
  | null
  | bool (value : Bool)
  | num (value : Number)
  | str (value : String)
  | arr (items : List Json)
  | obj (members : List (String × Json))
deriving Repr, Inhabited

namespace Json

mutual

/-- Equality of values. Zero equals negative zero. -/
def eqv : Json → Json → Bool
  | null, null => true
  | bool a, bool b => a == b
  | num a, num b => a.eqv b
  | str a, str b => a == b
  | arr a, arr b => eqvItems a b
  | obj a, obj b => eqvMembers a b
  | _, _ => false

def eqvItems : List Json → List Json → Bool
  | [], [] => true
  | a :: as, b :: bs => eqv a b && eqvItems as bs
  | _, _ => false

def eqvMembers : List (String × Json) → List (String × Json) → Bool
  | [], [] => true
  | (k, a) :: as, (l, b) :: bs => k == l && eqv a b && eqvMembers as bs
  | _, _ => false

end

instance : BEq Json := ⟨eqv⟩

mutual

def Ordered : Json → Prop
  | arr items => OrderedItems items
  | obj members => Dict.Ordered members ∧ OrderedMembers members
  | _ => True

def OrderedItems : List Json → Prop
  | [] => True
  | v :: rest => Ordered v ∧ OrderedItems rest

def OrderedMembers : List (String × Json) → Prop
  | [] => True
  | (_, v) :: rest => Ordered v ∧ OrderedMembers rest

end

def get? (key : String) : Json → Option Json
  | obj members => Dict.get? key members
  | _ => none

def str? : Json → Option String
  | str s => some s
  | _ => none

def int (n : Int) : Json := num (.int n)

def ofPairs (pairs : List (String × Json)) : Json := obj (Dict.ofList pairs)

def strings (texts : List String) : Json := arr (texts.map str)

def ofOption (f : α → Json) : Option α → Json
  | none => null
  | some a => f a

end Json

end ClusterImport
