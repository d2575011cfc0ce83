import ClusterImport.Integer
import ClusterImport.Text.Blank
/-!
Which log lines are shown. A filter is a list of directives with commas between them; a directive
has a target, the lines of which it is about, and a level up to which they are shown. Of the
directives about a line the most specific one decides.
-/
namespace ClusterImport.Log

inductive Level
  | off
  | error
  | warn
  | info
  | debug
  | trace
deriving DecidableEq, Repr

namespace Level

def name : Level → String
  | off => "OFF"
  | error => "ERROR"
  | warn => "WARN"
  | info => "INFO"
  | debug => "DEBUG"
  | trace => "TRACE"

def all : List Level := [off, error, warn, info, debug, trace]

def rank (l : Level) : Nat := l.ctorIdx

def ofChars? (s : List Char) : Option Level :=
  match readNat 6 s with
  | .ok n => all[n]?
  | .error _ => all.find? fun l => l.name == String.ofList (s.map Char.toUpper)

end Level

structure Line where
  level : Level
  target : String
  message : String
deriving DecidableEq, Repr

def Line.render (l : Line) : String := l.level.name ++ " " ++ l.message

structure Directive where
  target : Option (List Char)
  fields : List (List Char)
  level : Level
  /-- Whether it is about the inside of spans alone. -/
  spans : Bool
deriving DecidableEq, Repr

namespace Directive

/-- Characters that a target begins with. Those outside ASCII count as letters. -/
def isFirst (c : Char) : Bool := c.isAlphanum || "-:_".toList.contains c || 0x80 ≤ c.toNat

/-- The level after the target; without any level all lines are shown. -/
def level? : List Char → Option Level
  | [] => some .trace
  | '=' :: [] => some .trace
  | '=' :: rest => Level.ofChars? rest
  | _ => none

def inside? (s : List Char) : Option (List (List Char) × Bool) :=
  let name := s.takeWhile (· != '\x7b')
  match s.drop name.length with
  | [] => some ([], true)
  | _ :: rest =>
    let field := rest.takeWhile (· != '\x7d')
    if field.isEmpty || rest.drop field.length != ['\x7d'] then none
    else some ([field], !name.isEmpty || field.contains '=')

/-- Where the part in brackets ends: at the first closing bracket outside of braces. -/
def bracketed (s : List Char) : List Char × List Char :=
  let name := s.takeWhile fun c => c != ']' && c != '\x7b'
  let braces := (s.drop name.length).takeWhile (· != '\x7d')
  let rest := s.drop (name.length + braces.length)
  if (s.drop name.length).head? == some ']' then (name, s.drop name.length)
  else (name ++ braces ++ rest.takeWhile (· != ']'), rest.dropWhile (· != ']'))

def ofSpan? (target : Option (List Char)) (s : List Char) : Option Directive :=
  match bracketed s with
  | (inner, ']' :: rest) => do
    let (fields, spans) ← inside? inner
    return { target, fields, level := ← level? rest, spans }
  | _ => none

def ofChars? (s : List Char) : Option Directive :=
  match Text.trim s with
  | [] => none
  | '[' :: rest => ofSpan? none rest
  | c :: rest =>
    if !isFirst c then none
    else
      let s := c :: rest
      let name := s.takeWhile fun c => c != '=' && c != '['
      match s.drop name.length with
      | '[' :: rest => ofSpan? (some name) rest
      | [] =>
        match Level.ofChars? name with
        | some level => some ⟨none, [], level, false⟩
        | none => some ⟨some name, [], .trace, false⟩
      | rest => (level? rest).map fun level => ⟨some name, [], level, false⟩

/-- Lines have no other field than their message. -/
def concerns (d : Directive) (line : Line) : Bool :=
  let about := match d.target with
    | some target => target.isPrefixOf line.target.toList
    | none => true
  !d.spans && about && d.fields.all (· == "message".toList)

def specificity (d : Directive) : Nat × Nat :=
  ((d.target.map (·.length + 1)).getD 0, d.fields.length)

def yields (d other : Directive) : Bool :=
  let (a, b) := d.specificity
  let (x, y) := other.specificity
  a < x || (a == x && b ≤ y)

end Directive

abbrev Filter := List Directive

namespace Filter

def default : Filter := [⟨none, [], .info, false⟩]

def ofText? (text : String) : Option Filter := do
  let parts := (text.splitOn ",").filter (!·.isEmpty)
  let directives ← parts.mapM fun part => Directive.ofChars? part.toList
  return if directives.isEmpty then [⟨none, [], .error, false⟩] else directives

/-- The directive that decides about a line; of two that are equally specific it is the later. -/
def decisive? (f : Filter) (line : Line) : Option Directive :=
  (f.filter (·.concerns line)).foldl (fun best d =>
    match best with
    | none => some d
    | some b => if b.yields d then some d else some b) none

def shows (f : Filter) (line : Line) : Bool :=
  match f.decisive? line with
  | some d => line.level.rank ≤ d.level.rank
  | none => false

end Filter

end ClusterImport.Log
