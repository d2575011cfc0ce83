import ClusterImport.Json.Basic
import ClusterImport.Time.Timestamp
/-!
Reading typed values from JSON and writing them back. A field may be required, have a default, or be
optional; only for an optional field is null the same as absent. Some structures may also be given
as a list of their fields in order.
-/
namespace ClusterImport

namespace Decode

abbrev Decoder (α : Type) := Json → Option α

variable {α : Type}

def any : Decoder Json := some

def string : Decoder String
  | .str s => some s
  | _ => none

def boolean : Decoder Bool
  | .bool b => some b
  | _ => none

def integer (bits : Nat) : Decoder Int
  | .num (.int n) => if -Int.pow 2 (bits - 1) ≤ n && n < Int.pow 2 (bits - 1) then some n else none
  | _ => none

def natural (bits : Nat) : Decoder Nat
  | .num (.int n) => if 0 ≤ n && n < Int.pow 2 bits then some n.toNat else none
  | _ => none

def list (d : Decoder α) : Decoder (List α)
  | .arr items => items.mapM d
  | _ => none

def dict (d : Decoder α) : Decoder (Dict α)
  | .obj members => members.mapM fun (k, v) => (d v).map (k, ·)
  | _ => none

def orderedDict (d : Decoder α) : Decoder (OrderedDict α) :=
  fun v => (dict d v).map OrderedDict.ofList

def timestamp : Decoder Timestamp
  | .str s => Timestamp.ofText? s
  | _ => none

def members : Decoder (Dict Json)
  | .obj ms => some ms
  | _ => none

/-- The members of an object, or the items of a list under the names in order. -/
def fields (names : List String) : Decoder (Dict Json)
  | .obj ms => some ms
  | .arr items => if items.length ≤ names.length then some (names.zip items) else none
  | _ => none

/-- The members of an object, or exactly as many items as there are names. -/
def record (names : List String) : Decoder (Dict Json)
  | .obj ms => some ms
  | .arr items => if items.length = names.length then some (names.zip items) else none
  | _ => none

def maybe (d : Decoder α) (key : String) (ms : Dict Json) : Option (Option α) :=
  match ms.get? key with
  | none => some none
  | some .null => some none
  | some v => (d v).map some

def orDefault (default : α) (d : Decoder α) (key : String) (ms : Dict Json) : Option α :=
  match ms.get? key with
  | none => some default
  | some v => d v

def required (d : Decoder α) (key : String) (ms : Dict Json) : Option α := (ms.get? key).bind d

def textOrEmpty (key : String) (ms : Dict Json) : Option String :=
  (maybe string key ms).map (·.getD "")

end Decode

namespace Encode

variable {α : Type}

def present (key : String) (write : α → Json) : Option α → List (String × Json)
  | none => []
  | some a => [(key, write a)]

def nonEmpty (key : String) (s : String) : List (String × Json) :=
  if s.isEmpty then [] else [(key, .str s)]

def nonEmptyList (key : String) (write : α → Json) (xs : List α) : List (String × Json) :=
  if xs.isEmpty then [] else [(key, .arr (xs.map write))]

def list (write : α → Json) (xs : List α) : Json := .arr (xs.map write)

def dict (write : α → Json) (d : Dict α) : Json := .obj (d.map fun (k, v) => (k, write v))

end Encode

end ClusterImport
