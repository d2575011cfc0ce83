import ClusterImport.Json.Basic
import ClusterImport.Decimal.Text
/-!
What a YAML scalar stands for as a JSON value. A plain scalar may be null, a boolean or a number;
anything else is text. A tag of the core schema asks for one kind. Infinities and what is no number
have no JSON value and become null.
-/
namespace ClusterImport.Yaml.Scalar

def isNull (s : String) : Bool := ["~", "null", "Null", "NULL"].contains s

def boolean? (s : String) : Option Bool :=
  if ["true", "True", "TRUE"].contains s then some true
  else if ["false", "False", "FALSE"].contains s then some false
  else none

def digits? (base : Nat) (s : List Char) : Option Nat :=
  if s.isEmpty then none else (s.mapM (digitIn? base)).map (digitsValue base)

def hasLeadingZeros (s : List Char) : Bool :=
  match (NumberText.takeSign s).2 with
  | '0' :: c :: rest => (c :: rest).all Char.isDigit
  | _ => false

def magnitude? : List Char → Option Nat
  | '0' :: 'x' :: rest => digits? 16 rest
  | '0' :: 'o' :: rest => digits? 8 rest
  | '0' :: 'b' :: rest => digits? 2 rest
  | s => digits? 10 s

def integer? (s : List Char) : Option Int :=
  if hasLeadingZeros s then none
  else match s with
    | '-' :: rest => (magnitude? rest).map fun n => -(n : Int)
    | '+' :: rest => (magnitude? rest).map fun n => (n : Int)
    | s => (magnitude? s).map fun n => (n : Int)

/-- Integers of 64 bits are numbers, those of 128 bits are refused, and larger ones are left to the
reading as floating-point numbers. -/
inductive IntegerRange
  | number
  | refused
  | beyond

def rangeOf (n : Int) : IntegerRange :=
  if -Int.pow 2 63 ≤ n && n < Int.pow 2 64 then .number
  else if -Int.pow 2 127 ≤ n && n < Int.pow 2 128 then .refused
  else .beyond

def isInfinity (s : String) : Bool :=
  [".inf", ".Inf", ".INF", "+.inf", "+.Inf", "+.INF", "-.inf", "-.Inf", "-.INF"].contains s

def isNotANumber (s : String) : Bool := [".nan", ".NaN", ".NAN"].contains s

def float? (s : String) : Option Json :=
  if isInfinity s || isNotANumber s then some .null
  else do
    let t ← NumberText.ofChars? s.toList
    if !t.hasDigits then none
    let x ← t.binary64?
    some (.num (.float x))

/-- A plain scalar. The outer option is empty where the text is refused. -/
def plain? (s : String) : Option Json :=
  if s.isEmpty || isNull s then some .null
  else match boolean? s with
    | some b => some (.bool b)
    | none =>
      let asFloat := if hasLeadingZeros s.toList then .str s else (float? s).getD (.str s)
      match integer? s.toList with
      | none => some asFloat
      | some n =>
        match rangeOf n with
        | .number => some (.int n)
        | .refused => none
        | .beyond => some asFloat

def integerOnly? (s : String) : Option Json := do
  let n ← integer? s.toList
  match rangeOf n with
  | .number => some (.int n)
  | _ => none

def coreTag (name : String) : String := "tag:yaml.org,2002:" ++ name

/-- A scalar with its tag. A tag outside the core schema that begins with a mark is refused. -/
def value? (tag : Option String) (s : String) (plain : Bool) : Option Json :=
  match tag with
  | none => if plain then plain? s else some (.str s)
  | some t =>
    if t.startsWith "!" then none
    else if t = coreTag "bool" then (boolean? s).map .bool
    else if t = coreTag "int" then integerOnly? s
    else if t = coreTag "float" then float? s
    else if t = coreTag "null" then (if isNull s then some .null else none)
    else some (.str s)

end ClusterImport.Yaml.Scalar
