import ClusterImport.Json.Basic
import ClusterImport.Decimal.Shortest
/-!
Compact JSON text. Strings escape the quote, the backslash and control characters; the wide form
also escapes everything outside ASCII, in units of sixteen bits.
-/
namespace ClusterImport.Json

/-- Numbers are positional from `0.00001` to below `10 ^ 16`, and whole ones keep `.0`. -/
def numberLayout : Decimal.Layout := ⟨fun e => -5 ≤ e && e < 16, true⟩

def numberText : Number → String
  | .int n => toString n
  | .float x => String.ofList (numberLayout.text x)

def unitEscape (n : Nat) : List Char :=
  let ds := Nat.toDigits 16 n
  '\\' :: 'u' :: List.replicate (4 - ds.length) '0' ++ ds

def escapeShown (c : Char) : List Char :=
  match c with
  | '"' => ['\\', '"']
  | '\\' => ['\\', '\\']
  | '\n' => ['\\', 'n']
  | '\r' => ['\\', 'r']
  | '\t' => ['\\', 't']
  | '\x08' => ['\\', 'b']
  | '\x0c' => ['\\', 'f']
  | c => if c.toNat < 0x20 then unitEscape c.toNat else [c]

def escapeWide (c : Char) : List Char :=
  let n := c.toNat
  if n < 0x7f then escapeShown c
  else if n < 0x10000 then unitEscape n
  else unitEscape (0xd800 + (n - 0x10000) / 0x400) ++ unitEscape (0xdc00 + (n - 0x10000) % 0x400)

def quote (escape : Char → List Char) (s : String) : String :=
  String.ofList ('"' :: s.toList.flatMap escape ++ ['"'])

mutual

def write (escape : Char → List Char) : Json → String
  | null => "null"
  | bool true => "true"
  | bool false => "false"
  | num n => numberText n
  | str s => quote escape s
  | arr items => "[" ++ writeItems escape items ++ "]"
  | obj members => "\x7b" ++ writeMembers escape members ++ "\x7d"

def writeItems (escape : Char → List Char) : List Json → String
  | [] => ""
  | [v] => write escape v
  | v :: rest => write escape v ++ "," ++ writeItems escape rest

def writeMembers (escape : Char → List Char) : List (String × Json) → String
  | [] => ""
  | [(k, v)] => quote escape k ++ ":" ++ write escape v
  | (k, v) :: rest => quote escape k ++ ":" ++ write escape v ++ "," ++ writeMembers escape rest

end

def render (v : Json) : String := write escapeShown v

def renderWide (v : Json) : String := write escapeWide v

end ClusterImport.Json
