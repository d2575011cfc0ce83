import ClusterImport.Yaml.Event
import ClusterImport.Yaml.Scalar
/-!
The JSON value of a YAML document. Aliases repeat the node of their anchor; values nest at most 128
deep, and aliases are followed at most a hundred times per event, so that expansion stays bounded.
-/
namespace ClusterImport.Yaml

/-- An event whose alias, if it is one, points to a node by number. -/
inductive Node
  | alias (number : Nat)
  | scalar (tag : Option String) (text : String) (plain : Bool)
  | sequenceStart (tag : Option String)
  | sequenceEnd
  | mappingStart (tag : Option String)
  | mappingEnd
deriving DecidableEq, Repr

/-- The events of one document and, by number, the events that each anchored node begins with. -/
structure Document where
  events : List Node
  anchors : List (Nat × List Node)

structure Anchors where
  numbers : List (String × Nat)
  places : List (Nat × Nat)

namespace Anchors

def size (a : Anchors) : Nat := (a.numbers.map (·.1)).eraseDups.length

/-- A node gets the number of names so far; a number given again means the later node. -/
def add (a : Anchors) (name : Option String) (place : Nat) : Anchors :=
  match name with
  | none => a
  | some name => ⟨(name, a.size) :: a.numbers, (a.size, place) :: a.places⟩

end Anchors

namespace Document

def number : (place : Nat) → Anchors → List Event → Option (List Node × Anchors)
  | _, a, [] => some ([], a)
  | place, a, event :: rest => do
    let (node, a) ← match event with
      | .alias name => (a.numbers.lookup name).map fun n => (Node.alias n, a)
      | .scalar p text plain => some (Node.scalar p.tag text plain, a.add p.anchor place)
      | .sequenceStart p => some (Node.sequenceStart p.tag, a.add p.anchor place)
      | .sequenceEnd => some (Node.sequenceEnd, a)
      | .mappingStart p => some (Node.mappingStart p.tag, a.add p.anchor place)
      | .mappingEnd => some (Node.mappingEnd, a)
    let (nodes, a) ← number (place + 1) a rest
    some (node :: nodes, a)

def ofEvents? (events : List Event) : Option Document := do
  let (nodes, a) ← number 0 ⟨[], []⟩ events
  some ⟨nodes, a.places.map fun (n, place) => (n, nodes.drop place)⟩

structure Rules where
  /-- Tags outside the core schema are passed over. -/
  looseTags : Bool
  /-- Of two entries with one key the later stays. -/
  repeatedKeys : Bool

/-- What has been read, the events after it, and how many aliases have been followed. -/
abbrev Reading (α : Type) := α × List Node × Nat

def follow (d : Document) (n jumps : Nat) : Option (List Node × Nat) := do
  if d.events.length * 100 < jumps + 1 then none
  let target ← d.anchors.lookup n
  some (target, jumps + 1)

/-- A key is the text of a scalar, whatever it would stand for as a value. -/
def key (d : Document) (events : List Node) (jumps : Nat) : Option (Reading String) :=
  match events with
  | .scalar _ text _ :: rest => some (text, rest, jumps)
  | .alias n :: rest => do
    let (target, jumps) ← d.follow n jumps
    match target with
    | .scalar _ text _ :: _ => some (text, rest, jumps)
    | _ => none
  | _ => none

def items (value : List Node → Nat → Option (Reading Json)) :
    (fuel : Nat) → List Node → Nat → Option (Reading (List Json))
  | 0, _, _ => none
  | fuel + 1, events, jumps =>
    match events with
    | .sequenceEnd :: rest => some ([], rest, jumps)
    | events => do
      let (v, events, jumps) ← value events jumps
      let (vs, events, jumps) ← items value fuel events jumps
      some (v :: vs, events, jumps)

def members (d : Document) (rules : Rules) (value : List Node → Nat → Option (Reading Json)) :
    (fuel : Nat) → List Node → Nat → Dict Json → Option (Reading (Dict Json))
  | 0, _, _, _ => none
  | fuel + 1, events, jumps, done =>
    match events with
    | .mappingEnd :: rest => some (done, rest, jumps)
    | events => do
      let (k, events, jumps) ← d.key events jumps
      let (v, events, jumps) ← value events jumps
      if !rules.repeatedKeys && done.contains k then none
      members d rules value fuel events jumps (Dict.insert k v done)

def allowsTag (rules : Rules) (tag : Option String) : Bool :=
  rules.looseTags || !tag.any (·.startsWith "!")

def coreTagOf (rules : Rules) (tag : Option String) : Option String :=
  if rules.looseTags then tag.filter (!·.startsWith "!") else tag

def target (d : Document) (events : List Node) (jumps : Nat) :
    Option (Node × List Node × Option (List Node) × Nat) :=
  match events with
  | .alias n :: rest => do
    let (target, jumps) ← d.follow n jumps
    match target with
    | node :: inner => some (node, inner, some rest, jumps)
    | [] => none
  | node :: inner => some (node, inner, none, jumps)
  | [] => none

def value (d : Document) (rules : Rules) :
    (depth : Nat) → List Node → Nat → Option (Reading Json)
  | 0, events, jumps => do
    let (node, inner, outer, jumps) ← d.target events jumps
    match node with
    | .scalar tag text plain =>
      (Scalar.value? (coreTagOf rules tag) text plain).map fun v => (v, outer.getD inner, jumps)
    | _ => none
  | depth + 1, events, jumps => do
    let (node, inner, outer, jumps) ← d.target events jumps
    match node with
    | .scalar tag text plain =>
      (Scalar.value? (coreTagOf rules tag) text plain).map fun v => (v, outer.getD inner, jumps)
    | .sequenceStart tag =>
      if allowsTag rules tag then do
        let (vs, after, jumps) ← items (value d rules depth) (inner.length + 1) inner jumps
        some (.arr vs, outer.getD after, jumps)
      else none
    | .mappingStart tag =>
      if allowsTag rules tag then do
        let (ms, after, jumps) ←
          members d rules (value d rules depth) (inner.length + 1) inner jumps []
        some (.obj ms, outer.getD after, jumps)
      else none
    | _ => none

def toJson? (d : Document) (rules : Rules) : Option Json :=
  (d.value rules 128 d.events 0).map (·.1)

end Document

def readAll? (rules : Document.Rules) (text : String) : Option (List Json) := do
  let tokens ← Token.scan text.toList
  let documents ← Event.documents tokens
  documents.mapM fun events => (Document.ofEvents? events).bind (·.toJson? rules)

/-- The value of a text with one document. A text without any is null. -/
def read? (text : String) : Option Json := do
  match ← readAll? ⟨false, true⟩ text with
  | [] => some .null
  | [v] => some v
  | _ => none

end ClusterImport.Yaml
