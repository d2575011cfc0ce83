/-!
A place in a YAML text: what is left of it, and the line and column there. Five characters end a
line, and a carriage return with its line feed ends one line.
-/
namespace ClusterImport.Yaml

def isAllowed (c : Char) : Bool :=
  let n := c.toNat
  n == 9 || n == 10 || n == 13 || (0x20 ≤ n && n ≤ 0x7e) || n == 0x85 ||
    (0xa0 ≤ n && n ≤ 0xd7ff) || (0xe000 ≤ n && n ≤ 0xfffd) || 0x10000 ≤ n

def isBreak (c : Char) : Bool :=
  c == '\n' || c == '\r' || c == '\x85' || c == '\u2028' || c == '\u2029'

def isSpacing (c : Char) : Bool := c == ' ' || c == '\t'

def endsWord : Option Char → Bool
  | none => true
  | some c => isSpacing c || isBreak c

def isNameChar (c : Char) : Bool := c.isAlphanum || c == '_' || c == '-'

structure Cursor where
  rest : List Char
  index : Nat
  line : Nat
  column : Nat

namespace Cursor

def start (text : List Char) : Cursor := ⟨text, 0, 0, 0⟩

def peek (c : Cursor) : Option Char := c.rest.head?

def at? (c : Cursor) (n : Nat) : Option Char := c.rest[n]?

def sees (c : Cursor) (ch : Char) : Bool := c.peek == some ch

/-- Passes characters that end no line. -/
def skip (c : Cursor) (n : Nat) : Cursor := ⟨c.rest.drop n, c.index + n, c.line, c.column + n⟩

def skipWhile (c : Cursor) (p : Char → Bool) : Cursor := c.skip (c.rest.takeWhile p).length

def newLine (c : Cursor) (length : Nat) : Cursor :=
  ⟨c.rest.drop length, c.index + length, c.line + 1, 0⟩

/-- A line break and what it contributes to a text: a line feed, or the separator itself. -/
def takeBreak (c : Cursor) : Option (List Char × Cursor) :=
  match c.rest with
  | '\r' :: '\n' :: _ => some (['\n'], c.newLine 2)
  | ch :: _ =>
    if ch = '\u2028' || ch = '\u2029' then some ([ch], c.newLine 1)
    else if isBreak ch then some (['\n'], c.newLine 1)
    else none
  | [] => none

def skipBreak (c : Cursor) : Cursor := (c.takeBreak.map (·.2)).getD c

def skipLineEnd (c : Cursor) : Option Cursor :=
  let c := c.skipWhile isSpacing
  let c := if c.sees '#' then c.skipWhile (!isBreak ·) else c
  match c.peek with
  | none => some c
  | some ch => if isBreak ch then some c.skipBreak else none

def marks (c : Cursor) (ch : Char) : Bool :=
  c.column == 0 && c.rest.take 3 == [ch, ch, ch] && endsWord (c.at? 3)

def atDocumentMark (c : Cursor) : Bool := c.marks '-' || c.marks '.'

end Cursor

end ClusterImport.Yaml
