import ClusterImport.Yaml.Text
/-!
Tokens of a YAML text. A mapping key is recognised only at the colon after it, so the scanner
remembers where one may have begun and puts the key token there; a column left of the current block
closes blocks.
-/
namespace ClusterImport.Yaml

inductive Token
  | streamEnd
  | version (major minor : Nat)
  | tagDirective (handle start : String)
  | documentStart
  | documentEnd
  | blockSequence
  | blockMapping
  | blockEnd
  | flowSequence
  | flowSequenceEnd
  | flowMapping
  | flowMappingEnd
  | entry
  | separator
  | key
  | value
  | alias (name : String)
  | anchor (name : String)
  | tag (handle suffix : String)
  | scalar (text : String) (plain : Bool)
deriving DecidableEq, Repr

/-- A place where a key may begin. It must turn out to be one if it starts a line of a block. -/
structure KeyPlace where
  required : Bool
  token : Nat
  index : Nat
  line : Nat
  column : Nat

structure Scanner where
  cursor : Cursor
  tokens : Array Token
  /-- Columns of the open blocks; outside of all stands `-1`. -/
  indent : Int
  indents : List Int
  keyAllowed : Bool
  /-- The place for a key in the innermost brackets, and in those around them. -/
  place : Option KeyPlace
  places : List (Option KeyPlace)

namespace Scanner

def start (text : List Char) : Scanner := ⟨Cursor.start text, #[], -1, [], true, none, []⟩

def inFlow (s : Scanner) : Bool := !s.places.isEmpty

def emit (s : Scanner) (t : Token) : Scanner := { s with tokens := s.tokens.push t }

def skip (s : Scanner) (n : Nat) : Scanner := { s with cursor := s.cursor.skip n }

def openBlock (s : Scanner) (column : Nat) (place : Nat) (t : Token) : Scanner :=
  if s.inFlow || (column : Int) ≤ s.indent then s
  else { s with
    indents := s.indent :: s.indents
    indent := column
    tokens := s.tokens.insertIdxIfInBounds place t }

def closeTo (column : Int) (indent : Int) : List Int → Array Token → Int × List Int × Array Token
  | [], tokens => (indent, [], tokens)
  | i :: rest, tokens =>
    if column < indent then closeTo column i rest (tokens.push .blockEnd)
    else (indent, i :: rest, tokens)

def closeBlocks (s : Scanner) (column : Int) : Scanner :=
  if s.inFlow then s
  else
    let (indent, indents, tokens) := closeTo column s.indent s.indents s.tokens
    { s with indent, indents, tokens }

def dropPlace (s : Scanner) : Option Scanner :=
  if s.place.any (·.required) then none else some { s with place := none }

def savePlace (s : Scanner) : Option Scanner :=
  if s.keyAllowed then do
    let c := s.cursor
    let required := !s.inFlow && s.indent == (c.column : Int)
    let s ← s.dropPlace
    some { s with place := some ⟨required, s.tokens.size, c.index, c.line, c.column⟩ }
  else some s

/-- A key lies on one line and within 1024 characters. -/
def KeyPlace.isCurrent (p : KeyPlace) (c : Cursor) : Bool :=
  c.line ≤ p.line && c.index ≤ p.index + 1024

/-- Passes white space, comments and line breaks. A tab does not count as white space where a block
key may begin. -/
def skipToToken : (fuel : Nat) → Scanner → Scanner
  | 0, s => s
  | fuel + 1, s =>
    let c := s.cursor
    let c := if c.index = 0 && c.sees '\ufeff' then c.skip 1 else c
    let tabs := s.inFlow || !s.keyAllowed
    let c := c.skipWhile fun ch => ch == ' ' || (tabs && ch == '\t')
    let c := if c.sees '#' then c.skipWhile (!isBreak ·) else c
    match c.takeBreak with
    | none => { s with cursor := c }
    | some (_, c) => skipToToken fuel { s with cursor := c, keyAllowed := s.keyAllowed || !s.inFlow }

/-! ### Tags and directives -/

def isUriChar (verbatim : Bool) (c : Char) : Bool :=
  isNameChar c || ";/?:@&=+$.%!~*'()".toList.contains c ||
    (verbatim && (c == ',' || c == '[' || c == ']'))

/-- How many octets a character takes whose first octet is given, and the bits it contributes. -/
def octetLead? (n : Nat) : Option (Nat × Nat) :=
  if n < 0x80 then some (1, n)
  else if 0xc0 ≤ n && n < 0xe0 then some (2, n % 0x20)
  else if 0xe0 ≤ n && n < 0xf0 then some (3, n % 0x10)
  else if 0xf0 ≤ n && n < 0xf8 then some (4, n % 0x08)
  else none

def escapedOctet? : List Char → Option (Nat × List Char)
  | '%' :: a :: b :: rest => do
    let x ← digitIn? 16 a
    let y ← digitIn? 16 b
    some (x * 16 + y, rest)
  | _ => none

def trailingOctets : (count : Nat) → Nat → List Char → Option (Nat × List Char)
  | 0, n, s => some (n, s)
  | count + 1, n, s => do
    let (octet, s) ← escapedOctet? s
    if octet < 0x80 || 0xc0 ≤ octet then none
    trailingOctets count (n * 0x40 + octet % 0x40) s

def uriChars : (fuel : Nat) → List Char → Option (List Char)
  | 0, _ => some []
  | _ + 1, [] => some []
  | fuel + 1, '%' :: rest => do
    let (octet, s) ← escapedOctet? ('%' :: rest)
    let (size, bits) ← octetLead? octet
    let (n, s) ← trailingOctets (size - 1) bits s
    let c ← charOf? n
    (uriChars fuel s).map (c :: ·)
  | fuel + 1, c :: rest => (uriChars fuel rest).map (c :: ·)

/-- A tag's text. It may be empty only after a handle of more than the mark. -/
def uri? (verbatim : Bool) (c : Cursor) : Option (List Char × Cursor) := do
  let raw := c.rest.takeWhile (isUriChar verbatim)
  let text ← uriChars raw.length raw
  some (text, c.skip raw.length)

def nonEmptyUri? (verbatim : Bool) (c : Cursor) : Option (List Char × Cursor) :=
  (uri? verbatim c).filter fun (text, _) => !text.isEmpty

def handle? (c : Cursor) : Option (List Char × Cursor) :=
  match c.rest with
  | '!' :: rest =>
    let name := rest.takeWhile isNameChar
    let ending := if (rest.drop name.length).head? == some '!' then ['!'] else []
    some ('!' :: name ++ ending, c.skip (1 + name.length + ending.length))
  | _ => none

def isNamedHandle (h : List Char) : Bool := h.length > 1 && h.getLast? == some '!'

/-- A tag token. A handle without its second mark is part of the tag's text. -/
def tag? (inFlow : Bool) (c : Cursor) : Option (Token × Cursor) := do
  let (token, c) ←
    if c.at? 1 == some '<' then do
      let (text, c) ← nonEmptyUri? true (c.skip 2)
      if !c.sees '>' then none
      some (Token.tag "" (String.ofList text), c.skip 1)
    else do
      let (handle, c) ← handle? c
      if isNamedHandle handle then
        let (text, c) ← nonEmptyUri? false c
        some (Token.tag (String.ofList handle) (String.ofList text), c)
      else
        let (text, c) ← uri? false c
        let text := handle.drop 1 ++ text
        if text.isEmpty then some (Token.tag "" "!", c)
        else some (Token.tag "!" (String.ofList text), c)
  if endsWord c.peek || (inFlow && c.sees ',') then some (token, c) else none

def versionNumber? (c : Cursor) : Option (Nat × Cursor) :=
  let ds := c.rest.takeWhile Char.isDigit
  if ds.isEmpty || ds.length > 9 then none else some (decimalValue ds, c.skip ds.length)

def version? (c : Cursor) : Option (Token × Cursor) := do
  let (major, c) ← versionNumber? (c.skipWhile isSpacing)
  if !c.sees '.' then none
  let (minor, c) ← versionNumber? (c.skip 1)
  some (.version major minor, c)

def tagDirective? (c : Cursor) : Option (Token × Cursor) := do
  let (handle, c) ← handle? (c.skipWhile isSpacing)
  if !(handle == ['!'] || isNamedHandle handle) then none
  if !c.peek.any isSpacing then none
  let (text, c) ← nonEmptyUri? true (c.skipWhile isSpacing)
  if !endsWord c.peek then none
  some (.tagDirective (String.ofList handle) (String.ofList text), c)

def directive? (c : Cursor) : Option (Token × Cursor) := do
  let c := c.skip 1
  let name := c.rest.takeWhile isNameChar
  let c := c.skip name.length
  if name.isEmpty || !endsWord c.peek then none
  let (token, c) ← match String.ofList name with
    | "YAML" => version? c
    | "TAG" => tagDirective? c
    | _ => none
  let c ← c.skipLineEnd
  some (token, c)

/-! ### Fetching -/

def fetchEnd (s : Scanner) : Option Scanner := do
  let s ← (s.closeBlocks (-1)).dropPlace
  some ({ s with keyAllowed := false }.emit .streamEnd)

def fetchDirective (s : Scanner) : Option Scanner := do
  let s ← (s.closeBlocks (-1)).dropPlace
  let (token, c) ← directive? s.cursor
  some ({ s with keyAllowed := false, cursor := c }.emit token)

def fetchDocumentMark (s : Scanner) (t : Token) : Option Scanner := do
  let s ← (s.closeBlocks (-1)).dropPlace
  some (({ s with keyAllowed := false }.skip 3).emit t)

def fetchFlowStart (s : Scanner) (t : Token) : Option Scanner := do
  let s ← s.savePlace
  let s := { s with places := s.place :: s.places, place := none, keyAllowed := true }
  some ((s.skip 1).emit t)

def fetchFlowEnd (s : Scanner) (t : Token) : Option Scanner := do
  let s ← s.dropPlace
  let s := match s.places with
    | [] => s
    | p :: rest => { s with place := p, places := rest }
  some (({ s with keyAllowed := false }.skip 1).emit t)

def fetchSeparator (s : Scanner) : Option Scanner := do
  let s ← s.dropPlace
  some (({ s with keyAllowed := true }.skip 1).emit .separator)

def fetchEntry (s : Scanner) : Option Scanner := do
  if !s.inFlow && !s.keyAllowed then none
  let s := s.openBlock s.cursor.column s.tokens.size .blockSequence
  let s ← s.dropPlace
  some (({ s with keyAllowed := true }.skip 1).emit .entry)

def fetchKey (s : Scanner) : Option Scanner := do
  if !s.inFlow && !s.keyAllowed then none
  let s := s.openBlock s.cursor.column s.tokens.size .blockMapping
  let s ← s.dropPlace
  some (({ s with keyAllowed := !s.inFlow }.skip 1).emit .key)

/-- A colon makes what began at the remembered place a key. A required place that has gone out of
reach is refused. -/
def fetchValue (s : Scanner) : Option Scanner := do
  match s.place with
  | some p =>
    if KeyPlace.isCurrent p s.cursor then
      let s := { s with tokens := s.tokens.insertIdxIfInBounds p.token .key }
      let s := s.openBlock p.column p.token .blockMapping
      return ({ s with place := none, keyAllowed := false }.skip 1).emit .value
    if p.required then none
  | none => pure ()
  let s := { s with place := none }
  if !s.inFlow && !s.keyAllowed then none
  let s := s.openBlock s.cursor.column s.tokens.size .blockMapping
  some (({ s with keyAllowed := !s.inFlow }.skip 1).emit .value)

def fetchName (s : Scanner) (token : String → Token) : Option Scanner := do
  let s ← s.savePlace
  let c := s.cursor.skip 1
  let name := c.rest.takeWhile isNameChar
  let c := c.skip name.length
  let ended := endsWord c.peek || c.peek.any fun ch => "?:,]\x7d%@\x60".toList.contains ch
  if name.isEmpty || !ended then none
  some ({ s with keyAllowed := false, cursor := c }.emit (token (String.ofList name)))

def fetchTag (s : Scanner) : Option Scanner := do
  let s ← s.savePlace
  let (token, c) ← tag? s.inFlow s.cursor
  some ({ s with keyAllowed := false, cursor := c }.emit token)

def fetchBlockScalar (s : Scanner) (literal : Bool) : Option Scanner := do
  let s ← s.dropPlace
  let (text, c) ← blockText literal s.indent (s.cursor.skip 1)
  some ({ s with keyAllowed := true, cursor := c }.emit (.scalar (String.ofList text) false))

def fetchQuoted (s : Scanner) (quote : Char) : Option Scanner := do
  let s ← s.savePlace
  let c := s.cursor.skip 1
  let (text, c) ← quotedText quote (c.rest.length + 1) [] c
  some ({ s with keyAllowed := false, cursor := c }.emit (.scalar (String.ofList text) false))

def fetchPlain (s : Scanner) : Option Scanner := do
  let s ← s.savePlace
  let c := s.cursor
  let (text, broken, c) ←
    plainText s.inFlow (s.indent + 1).toNat (c.rest.length + 1) [] Gap.empty c
  some ({ s with keyAllowed := broken, cursor := c }.emit (.scalar (String.ofList text) true))

def beginsPlain (inFlow : Bool) (ch : Char) (next : Option Char) : Bool :=
  if ch == '-' then !next.any isSpacing
  else if ch == '?' || ch == ':' then !inFlow && !endsWord next
  else !(endsWord (some ch) || ",[]\x7b\x7d#&*!|>'\"%@\x60".toList.contains ch)

def fetchAt (s : Scanner) (ch : Char) : Option Scanner :=
  let c := s.cursor
  let next := c.at? 1
  if c.column = 0 && ch = '%' then s.fetchDirective
  else if c.marks '-' then s.fetchDocumentMark .documentStart
  else if c.marks '.' then s.fetchDocumentMark .documentEnd
  else if ch = '[' then s.fetchFlowStart .flowSequence
  else if ch = '\x7b' then s.fetchFlowStart .flowMapping
  else if ch = ']' then s.fetchFlowEnd .flowSequenceEnd
  else if ch = '\x7d' then s.fetchFlowEnd .flowMappingEnd
  else if ch = ',' then s.fetchSeparator
  else if ch = '-' && endsWord next then s.fetchEntry
  else if ch = '?' && (s.inFlow || endsWord next) then s.fetchKey
  else if ch = ':' && (s.inFlow || endsWord next) then s.fetchValue
  else if ch = '*' then s.fetchName .alias
  else if ch = '&' then s.fetchName .anchor
  else if ch = '!' then s.fetchTag
  else if ch = '|' && !s.inFlow then s.fetchBlockScalar true
  else if ch = '>' && !s.inFlow then s.fetchBlockScalar false
  else if ch = '\'' || ch = '"' then s.fetchQuoted ch
  else if beginsPlain s.inFlow ch next then s.fetchPlain
  else none

def scan : (fuel : Nat) → Scanner → Option (Array Token)
  | 0, _ => none
  | fuel + 1, s =>
    let s := skipToToken (s.cursor.rest.length + 1) s
    let s := s.closeBlocks s.cursor.column
    match s.cursor.peek with
    | none => s.fetchEnd.map (·.tokens)
    | some ch => (s.fetchAt ch).bind (scan fuel)

end Scanner

def Token.scan (text : List Char) : Option (List Token) :=
  if text.all isAllowed then ((Scanner.start text).scan (text.length + 2)).map (·.toList) else none

end ClusterImport.Yaml
