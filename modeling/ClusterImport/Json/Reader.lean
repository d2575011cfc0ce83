import ClusterImport.Json.Basic
import ClusterImport.Decimal.Text
/-!
Reading JSON text. A lexer runs over the characters and a builder over the tokens; both are folds,
so every text is read in one pass. Of two members with one key the later stays, and values nest at
most 127 deep.
-/
namespace ClusterImport.Json

inductive Token
  | beginArray
  | endArray
  | beginObject
  | endObject
  | comma
  | colon
  | text (value : String)
  | value (v : Json)

/-- What the lexer is inside of, with the characters read so far in reverse. -/
inductive Mode
  | between
  | text (done : List Char)
  | escape (done : List Char)
  | unit (done : List Char) (high : Option Nat) (value : Nat) (left : Nat)
  | lowBackslash (done : List Char) (high : Nat)
  | lowLetter (done : List Char) (high : Nat)
  | word (done : List Char)
  | number (done : List Char)

/-- Integers keep their value within 64 bits and become floating-point numbers beyond, as does
negative zero. -/
def numberOf? (s : List Char) : Option Number := do
  let t ← NumberText.ofChars? s
  let leadingZero := t.whole.length > 1 && t.whole.head? == some '0'
  if t.sign == some '+' || t.whole.isEmpty || leadingZero || t.fraction == some []
      || !t.hasDigits then none
  else if t.isInteger then
    let n := decimalValue t.whole
    if !t.isNegative && n < Nat.pow 2 64 then some (.int n)
    else if t.isNegative && 0 < n && n ≤ Nat.pow 2 63 then some (.int (-n))
    else t.binary64?.map .float
  else t.binary64?.map .float

def wordOf? (s : List Char) : Option Json :=
  match String.ofList s with
  | "true" => some (.bool true)
  | "false" => some (.bool false)
  | "null" => some .null
  | _ => none

def isNumberChar (c : Char) : Bool :=
  c.isDigit || c == '-' || c == '+' || c == '.' || c == 'e' || c == 'E'

def stepBetween (c : Char) : Option (Mode × List Token) :=
  match c with
  | ' ' | '\n' | '\r' | '\t' => some (.between, [])
  | '[' => some (.between, [.beginArray])
  | ']' => some (.between, [.endArray])
  | '\x7b' => some (.between, [.beginObject])
  | '\x7d' => some (.between, [.endObject])
  | ',' => some (.between, [.comma])
  | ':' => some (.between, [.colon])
  | '"' => some (.text [], [])
  | c =>
    if isNumberChar c && c != 'e' && c != 'E' then some (.number [c], [])
    else if c.isLower then some (.word [c], [])
    else none

def escapedChar? : Char → Option Char
  | '"' => some '"'
  | '\\' => some '\\'
  | '/' => some '/'
  | 'b' => some '\x08'
  | 'f' => some '\x0c'
  | 'n' => some '\n'
  | 'r' => some '\r'
  | 't' => some '\t'
  | _ => none

/-- A finished unit of sixteen bits: a high surrogate waits for a low one. -/
def finishUnit (done : List Char) (high : Option Nat) (value : Nat) : Option Mode :=
  match high with
  | none =>
    if 0xd800 ≤ value && value < 0xdc00 then some (.lowBackslash done value)
    else if 0xdc00 ≤ value && value < 0xe000 then none
    else some (.text (Char.ofNat value :: done))
  | some h =>
    if 0xdc00 ≤ value && value < 0xe000 then
      some (.text (Char.ofNat (0x10000 + (h - 0xd800) * 0x400 + (value - 0xdc00)) :: done))
    else none

def Mode.flush : Mode → Option (List Token)
  | .between => some []
  | .word done => (wordOf? done.reverse).map fun v => [.value v]
  | .number done => (numberOf? done.reverse).map fun n => [.value (.num n)]
  | _ => none

def Mode.step (mode : Mode) (c : Char) : Option (Mode × List Token) :=
  match mode with
  | .between => stepBetween c
  | .text done =>
    if c = '"' then some (.between, [.text (String.ofList done.reverse)])
    else if c = '\\' then some (.escape done, [])
    else if c.toNat < 0x20 then none
    else some (.text (c :: done), [])
  | .escape done =>
    if c = 'u' then some (.unit done none 0 4, [])
    else (escapedChar? c).map fun e => (.text (e :: done), [])
  | .unit done high value left => do
    let d ← digitIn? 16 c
    let value := value * 16 + d
    if left ≤ 1 then (finishUnit done high value).map (·, []) else some (.unit done high value (left - 1), [])
  | .lowBackslash done high => if c = '\\' then some (.lowLetter done high, []) else none
  | .lowLetter done high => if c = 'u' then some (.unit done (some high) 0 4, []) else none
  | .word done =>
    if c.isLower then some (.word (c :: done), [])
    else do
      let ended ← Mode.flush (.word done)
      let (mode, tokens) ← stepBetween c
      some (mode, ended ++ tokens)
  | .number done =>
    if isNumberChar c then some (.number (c :: done), [])
    else do
      let ended ← Mode.flush (.number done)
      let (mode, tokens) ← stepBetween c
      some (mode, ended ++ tokens)

structure Lexer where
  mode : Mode
  tokens : List Token

def Lexer.step (l : Lexer) (c : Char) : Option Lexer :=
  (l.mode.step c).map fun (mode, tokens) => ⟨mode, tokens.reverse ++ l.tokens⟩

def tokens? (s : List Char) : Option (List Token) := do
  let l ← s.foldlM Lexer.step ⟨.between, []⟩
  let ended ← l.mode.flush
  some (l.tokens.reverse ++ ended)

inductive Frame
  | items (done : List Json)
  | members (done : Dict Json) (key : Option String)

inductive Expected
  | value
  | valueOrEnd
  | key
  | keyOrEnd
  | colon
  | commaOrEnd
  | nothing
deriving DecidableEq

structure Builder where
  expected : Expected
  stack : List Frame
  result : Option Json

namespace Builder

def start : Builder := ⟨.value, [], none⟩

def put (v : Json) (stack : List Frame) : Option Builder :=
  match stack with
  | [] => some ⟨.nothing, [], some v⟩
  | .items done :: rest => some ⟨.commaOrEnd, .items (v :: done) :: rest, none⟩
  | .members done (some key) :: rest =>
    some ⟨.commaOrEnd, .members (Dict.insert key v done) none :: rest, none⟩
  | .members _ none :: _ => none

def takesValue (b : Builder) : Bool := b.expected == .value || b.expected == .valueOrEnd

def enter (b : Builder) (frame : Frame) (expected : Expected) : Option Builder :=
  if b.takesValue && b.stack.length < 127 then some ⟨expected, frame :: b.stack, none⟩ else none

def step (b : Builder) (t : Token) : Option Builder :=
  match t with
  | .beginArray => b.enter (.items []) .valueOrEnd
  | .beginObject => b.enter (.members [] none) .keyOrEnd
  | .endArray =>
    match b.stack with
    | .items done :: rest =>
      if b.expected == .commaOrEnd || b.expected == .valueOrEnd then put (.arr done.reverse) rest
      else none
    | _ => none
  | .endObject =>
    match b.stack with
    | .members done _ :: rest =>
      if b.expected == .commaOrEnd || b.expected == .keyOrEnd then put (.obj done) rest else none
    | _ => none
  | .comma =>
    if b.expected == .commaOrEnd then
      match b.stack with
      | .items _ :: _ => some { b with expected := .value }
      | .members _ _ :: _ => some { b with expected := .key }
      | [] => none
    else none
  | .colon => if b.expected == .colon then some { b with expected := .value } else none
  | .text s =>
    if b.expected == .key || b.expected == .keyOrEnd then
      match b.stack with
      | .members done none :: rest => some ⟨.colon, .members done (some s) :: rest, none⟩
      | _ => none
    else if b.takesValue then put (.str s) b.stack
    else none
  | .value v => if b.takesValue then put v b.stack else none

end Builder

def ofChars? (s : List Char) : Option Json := do
  let tokens ← tokens? s
  let b ← tokens.foldlM Builder.step Builder.start
  b.result

def ofText? (s : String) : Option Json := ofChars? s.toList

end ClusterImport.Json
