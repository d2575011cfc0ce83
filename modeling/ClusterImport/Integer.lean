import ClusterImport.Decimal.Text
/-!
Reading a bounded natural number: an optional plus sign and decimal digits. A character that is no
digit is reported where it stands, unless the digits before it are too large already.
-/
namespace ClusterImport

inductive IntegerError
  | empty
  | invalidDigit
  | tooLarge
deriving DecidableEq, Repr

def IntegerError.message : IntegerError → String
  | .empty => "cannot parse integer from empty string"
  | .invalidDigit => "invalid digit found in string"
  | .tooLarge => "number too large to fit in target type"

def readDigits (bound : Nat) : Nat → List Char → Except IntegerError Nat
  | n, [] => .ok n
  | n, c :: rest =>
    match digitIn? 10 c with
    | none => .error .invalidDigit
    | some d => if n * 10 + d < bound then readDigits bound (n * 10 + d) rest else .error .tooLarge

def readNat (bound : Nat) : List Char → Except IntegerError Nat
  | [] => .error .empty
  | ['+'] => .error .invalidDigit
  | '+' :: rest => readDigits bound 0 rest
  | s => readDigits bound 0 s

end ClusterImport
