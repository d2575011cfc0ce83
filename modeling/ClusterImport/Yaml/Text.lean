import ClusterImport.Decimal.Text
import ClusterImport.Yaml.Cursor
/-!
The texts of YAML scalars: plain, quoted, and block. Line breaks inside plain and quoted scalars
fold: one becomes a space, and of several the first is dropped.
-/
namespace ClusterImport.Yaml

structure Gap where
  broken : Bool
  blanks : List Char
  first : List Char
  others : List Char

namespace Gap

def empty : Gap := ⟨false, [], [], []⟩

def text (g : Gap) : List Char :=
  if !g.broken then g.blanks
  else if g.first.head? == some '\n' then (if g.others.isEmpty then [' '] else g.others)
  else g.first ++ g.others

/-- Reads blanks and breaks. A tab left of the column `indent` on a new line is refused. -/
def scan (indent : Nat) : (fuel : Nat) → Gap → Cursor → Option (Gap × Cursor)
  | 0, g, c => some (g, c)
  | fuel + 1, g, c =>
    match c.peek with
    | none => some (g, c)
    | some ch =>
      if isSpacing ch then
        if !g.broken then scan indent fuel { g with blanks := g.blanks ++ [ch] } (c.skip 1)
        else if ch = '\t' && c.column < indent then none
        else scan indent fuel g (c.skip 1)
      else
        match c.takeBreak with
        | none => some (g, c)
        | some (b, c) =>
          if g.broken then scan indent fuel { g with others := g.others ++ b } c
          else scan indent fuel ⟨true, [], b, g.others⟩ c

end Gap

/-! ### Plain scalars -/

def isFlowIndicator (c : Char) : Bool :=
  c == ',' || c == '[' || c == ']' || c == '\x7b' || c == '\x7d'

/-- The characters up to white space or an indicator that ends a plain scalar. Inside brackets a
colon before another indicator is refused. -/
def plainWord (flow : Bool) : List Char → Option (List Char)
  | [] => some []
  | c :: rest =>
    if endsWord (some c) then some []
    else if flow && c == ':' && rest.head?.any (fun d => isFlowIndicator d || d == '?') then none
    else if c == ':' && endsWord rest.head? then some []
    else if flow && isFlowIndicator c then some []
    else (plainWord flow rest).map (c :: ·)

/-- A plain scalar, and whether a line break follows it. The words so far are in reverse. -/
def plainText (flow : Bool) (indent : Nat) :
    (fuel : Nat) → List Char → Gap → Cursor → Option (List Char × Bool × Cursor)
  | 0, done, gap, c => some (done.reverse, gap.broken, c)
  | fuel + 1, done, gap, c =>
    if c.atDocumentMark || c.sees '#' then some (done.reverse, gap.broken, c)
    else do
      let word ← plainWord flow c.rest
      if word.isEmpty then return (done.reverse, gap.broken, c)
      let done := word.reverse ++ gap.text.reverse ++ done
      let c := c.skip word.length
      if !(c.peek.isSome && endsWord c.peek) then return (done.reverse, false, c)
      let (gap, c) ← Gap.scan indent c.rest.length Gap.empty c
      if !flow && c.column < indent then return (done.reverse, gap.broken, c)
      plainText flow indent fuel done gap c

/-! ### Quoted scalars -/

def namedEscape? : Char → Option Char
  | '0' => some '\x00'
  | 'a' => some '\x07'
  | 'b' => some '\x08'
  | 't' => some '\t'
  | '\t' => some '\t'
  | 'n' => some '\n'
  | 'v' => some '\x0b'
  | 'f' => some '\x0c'
  | 'r' => some '\r'
  | 'e' => some '\x1b'
  | ' ' => some ' '
  | '"' => some '"'
  | '/' => some '/'
  | '\\' => some '\\'
  | 'N' => some '\x85'
  | '_' => some '\xa0'
  | 'L' => some '\u2028'
  | 'P' => some '\u2029'
  | _ => none

def hexEscape? : Char → Option Nat
  | 'x' => some 2
  | 'u' => some 4
  | 'U' => some 8
  | _ => none

def charOf? (n : Nat) : Option Char :=
  if (0xd800 ≤ n && n ≤ 0xdfff) || 0x10ffff < n then none else some (Char.ofNat n)

def escape? : List Char → Option (Char × Nat)
  | [] => none
  | e :: rest =>
    match hexEscape? e with
    | none => (namedEscape? e).map (·, 1)
    | some n => do
      let ds ← (rest.take n).mapM (digitIn? 16)
      if ds.length < n then none
      let c ← charOf? (digitsValue 16 ds)
      some (c, n + 1)

/-- The characters up to white space or the closing quote, in reverse, and whether an escaped line
break ended them. -/
def quotedWord (quote : Char) :
    (fuel : Nat) → List Char → Cursor → Option (List Char × Bool × Cursor)
  | 0, done, c => some (done, false, c)
  | fuel + 1, done, c =>
    match c.rest with
    | [] => some (done, false, c)
    | ch :: rest =>
      if endsWord (some ch) then some (done, false, c)
      else if ch = quote then
        if quote = '\'' && rest.head? == some '\'' then
          quotedWord quote fuel ('\'' :: done) (c.skip 2)
        else some (done, false, c)
      else if ch = '\\' && quote = '"' then
        if rest.head?.any isBreak then some (done, true, (c.skip 1).skipBreak)
        else do
          let (e, length) ← escape? rest
          quotedWord quote fuel (e :: done) (c.skip (length + 1))
      else quotedWord quote fuel (ch :: done) (c.skip 1)

def quotedText (quote : Char) : (fuel : Nat) → List Char → Cursor → Option (List Char × Cursor)
  | 0, _, _ => none
  | fuel + 1, done, c =>
    if c.atDocumentMark || c.rest.isEmpty then none
    else do
      let (done, folded, c) ← quotedWord quote c.rest.length done c
      if c.sees quote then return (done.reverse, c.skip 1)
      let (gap, c) ← Gap.scan 0 c.rest.length { Gap.empty with broken := folded } c
      quotedText quote fuel (gap.text.reverse ++ done) c

/-! ### Block scalars -/

inductive Chomping
  | strip
  | clip
  | keep
deriving DecidableEq

def chomping? : Option Char → Option Chomping
  | some '+' => some .keep
  | some '-' => some .strip
  | _ => none

def increment (c : Cursor) : Option (Nat × Cursor) :=
  match c.peek.bind (digitIn? 10) with
  | none => some (0, c)
  | some 0 => none
  | some d => some (d, c.skip 1)

def blockHeader (c : Cursor) : Option (Chomping × Nat × Cursor) :=
  match chomping? c.peek with
  | some chomping => do
    let (d, c) ← increment (c.skip 1)
    some (chomping, d, c)
  | none => do
    let (d, c) ← increment c
    match chomping? c.peek with
    | some chomping => some (chomping, d, c.skip 1)
    | none => some (.clip, d, c)

/-- Empty lines before a line of a block scalar, and the deepest column seen. While the indentation
is not known, as `0` says, spaces go on as far as they do. A tab in the indentation is refused. -/
def blockBreaks (indent : Nat) :
    (fuel : Nat) → (deepest : Nat) → List Char → Cursor → Option (Nat × List Char × Cursor)
  | 0, deepest, breaks, c => some (deepest, breaks, c)
  | fuel + 1, deepest, breaks, c =>
    let spaces := (c.rest.takeWhile (· == ' ')).length
    let c := c.skip (if indent = 0 then spaces else min spaces (indent - c.column))
    let deepest := max deepest c.column
    if (indent = 0 || c.column < indent) && c.sees '\t' then none
    else
      match c.takeBreak with
      | none => some (deepest, breaks, c)
      | some (b, c) => blockBreaks indent fuel deepest (breaks ++ b) c

/-- The lines of a block scalar in reverse, with the last break and the empty lines after it. -/
def blockLines (literal : Bool) (indent : Nat) :
    (fuel : Nat) → (done first others : List Char) → (spaced : Bool) → Cursor →
      Option (List Char × List Char × List Char × Cursor)
  | 0, done, first, others, _, c => some (done, first, others, c)
  | fuel + 1, done, first, others, spaced, c =>
    if c.column = indent && !c.rest.isEmpty then do
      let spacedHere := c.peek.any isSpacing
      let folds := !literal && first.head? == some '\n' && !spaced && !spacedHere
      let joint := if folds then (if others.isEmpty then [' '] else []) else first
      let line := c.rest.takeWhile (!isBreak ·)
      let done := line.reverse ++ others.reverse ++ joint.reverse ++ done
      let (first, c) := ((c.skip line.length).takeBreak).getD ([], c.skip line.length)
      let (_, others, c) ← blockBreaks indent c.rest.length 0 [] c
      blockLines literal indent fuel done first others spacedHere c
    else some (done, first, others, c)

def blockText (literal : Bool) (parent : Int) (c : Cursor) : Option (List Char × Cursor) := do
  let (chomping, d, c) ← blockHeader c
  let c ← c.skipLineEnd
  let given := if d = 0 then 0 else ((max parent 0) + d).toNat
  let (deepest, others, c) ← blockBreaks given (c.rest.length + 1) 0 [] c
  let indent := if given = 0 then max (max deepest (parent + 1).toNat) 1 else given
  let (done, first, others, c) ← blockLines literal indent (c.rest.length + 1) [] [] others false c
  let tail := match chomping with
    | .strip => []
    | .clip => first
    | .keep => first ++ others
  some (done.reverse ++ tail, c)

end ClusterImport.Yaml
