import ClusterImport.Yaml.Token
/-!
The structure of a YAML text as a list of events per document. A list of goals stands for what is
still to be read; each step meets the first goal with the tokens at hand, and yields events and the
goals that take its place.
-/
namespace ClusterImport.Yaml

structure Properties where
  anchor : Option String
  tag : Option String
deriving DecidableEq, Repr

inductive Event
  | alias (name : String)
  | scalar (properties : Properties) (text : String) (plain : Bool)
  | sequenceStart (properties : Properties)
  | sequenceEnd
  | mappingStart (properties : Properties)
  | mappingEnd
deriving DecidableEq, Repr

inductive Goal
  | node (block indentless : Bool)
  | blockEntries
  | indentlessEntries
  | blockKeys
  | blockValue
  | flowEntries (first : Bool)
  | pairKey
  | pairValue
  | pairEnd
  | flowKeys (first : Bool)
  | flowValue
  | absentValue

/-- The handles of a document and what they stand for, later ones in front. -/
abbrev Handles := List (String × String)

def standardHandles : Handles := [("!", "!"), ("!!", "tag:yaml.org,2002:")]

namespace Event

def noProperties : Properties := ⟨none, none⟩

def emptyScalar : Event := .scalar noProperties "" true

def mappingBegin : Event := .mappingStart noProperties

def resolveTag (handles : Handles) (handle suffix : String) : Option String :=
  if handle.isEmpty then some suffix
  else ((handles ++ standardHandles).lookup handle).map (· ++ suffix)

def properties (handles : Handles) (tokens : List Token) : Option (Properties × List Token) :=
  match tokens with
  | .anchor a :: .tag h s :: rest => (resolveTag handles h s).map fun t => (⟨some a, some t⟩, rest)
  | .tag h s :: .anchor a :: rest => (resolveTag handles h s).map fun t => (⟨some a, some t⟩, rest)
  | .anchor a :: rest => some (⟨some a, none⟩, rest)
  | .tag h s :: rest => (resolveTag handles h s).map fun t => (⟨none, some t⟩, rest)
  | rest => some (noProperties, rest)

abbrev Step := Option (List Event × List Goal × List Token)

def node (handles : Handles) (block indentless : Bool) (tokens : List Token) : Step :=
  match tokens with
  | .alias name :: rest => some ([.alias name], [], rest)
  | tokens => do
    let (p, tokens) ← properties handles tokens
    match tokens with
    | .scalar text plain :: rest => some ([.scalar p text plain], [], rest)
    | .flowSequence :: rest => some ([.sequenceStart p], [.flowEntries true], rest)
    | .flowMapping :: rest => some ([.mappingStart p], [.flowKeys true], rest)
    | .entry :: rest =>
      if indentless then some ([.sequenceStart p], [.indentlessEntries], .entry :: rest)
      else if p = noProperties then none
      else some ([.scalar p "" true], [], .entry :: rest)
    | t :: rest =>
      if block && t = .blockSequence then some ([.sequenceStart p], [.blockEntries], rest)
      else if block && t = .blockMapping then some ([.mappingStart p], [.blockKeys], rest)
      else if p = noProperties then none
      else some ([.scalar p "" true], [], t :: rest)
    | [] => none

/-- A node of a block collection, or an empty scalar if the next token is one of `ends`. -/
def blockNode (indentless : Bool) (ends : List Token) (next : Goal) (tokens : List Token) : Step :=
  match tokens with
  | t :: rest =>
    if ends.contains t then some ([emptyScalar], [next], t :: rest)
    else some ([], [.node true indentless, next], t :: rest)
  | [] => none

def flowNode (ends : List Token) (next : Goal) (tokens : List Token) : Step :=
  match tokens with
  | t :: rest =>
    if ends.contains t then some ([emptyScalar], [next], t :: rest)
    else some ([], [.node false false, next], t :: rest)
  | [] => none

def flowEntry (tokens : List Token) : Step :=
  match tokens with
  | .flowSequenceEnd :: rest => some ([.sequenceEnd], [], rest)
  | .key :: rest => some ([mappingBegin], [.pairKey], rest)
  | tokens => some ([], [.node false false, .flowEntries false], tokens)

def flowKey (tokens : List Token) : Step :=
  match tokens with
  | .flowMappingEnd :: rest => some ([.mappingEnd], [], rest)
  | .key :: rest => flowNode [.value, .separator, .flowMappingEnd] .flowValue rest
  | tokens => some ([], [.node false false, .absentValue], tokens)

def step (handles : Handles) (goal : Goal) (tokens : List Token) : Step :=
  match goal, tokens with
  | .node block indentless, tokens => node handles block indentless tokens
  | .blockEntries, .entry :: rest => blockNode false [.entry, .blockEnd] .blockEntries rest
  | .blockEntries, .blockEnd :: rest => some ([.sequenceEnd], [], rest)
  | .blockEntries, _ => none
  | .indentlessEntries, .entry :: rest =>
    blockNode false [.entry, .key, .value, .blockEnd] .indentlessEntries rest
  | .indentlessEntries, tokens => some ([.sequenceEnd], [], tokens)
  | .blockKeys, .key :: rest => blockNode true [.key, .value, .blockEnd] .blockValue rest
  | .blockKeys, .blockEnd :: rest => some ([.mappingEnd], [], rest)
  | .blockKeys, _ => none
  | .blockValue, .value :: rest => blockNode true [.key, .value, .blockEnd] .blockKeys rest
  | .blockValue, tokens => some ([emptyScalar], [.blockKeys], tokens)
  | .flowEntries true, tokens => flowEntry tokens
  | .flowEntries false, .flowSequenceEnd :: rest => some ([.sequenceEnd], [], rest)
  | .flowEntries false, .separator :: rest => flowEntry rest
  | .flowEntries false, _ => none
  | .pairKey, t :: rest =>
    if [Token.value, .separator, .flowSequenceEnd].contains t then
      some ([emptyScalar], [.pairValue], rest)
    else some ([], [.node false false, .pairValue], t :: rest)
  | .pairKey, [] => none
  | .pairValue, .value :: rest => flowNode [.separator, .flowSequenceEnd] .pairEnd rest
  | .pairValue, tokens => some ([emptyScalar], [.pairEnd], tokens)
  | .pairEnd, tokens => some ([.mappingEnd], [.flowEntries false], tokens)
  | .flowKeys true, tokens => flowKey tokens
  | .flowKeys false, .flowMappingEnd :: rest => some ([.mappingEnd], [], rest)
  | .flowKeys false, .separator :: rest => flowKey rest
  | .flowKeys false, _ => none
  | .flowValue, .value :: rest => flowNode [.separator, .flowMappingEnd] (.flowKeys false) rest
  | .flowValue, tokens => some ([emptyScalar], [.flowKeys false], tokens)
  | .absentValue, tokens => some ([emptyScalar], [.flowKeys false], tokens)

/-- Meets all goals; the events so far are in reverse. -/
def run (handles : Handles) :
    (fuel : Nat) → List Goal → List Event → List Token → Option (List Event × List Token)
  | _, [], done, tokens => some (done.reverse, tokens)
  | 0, _ :: _, _, _ => none
  | fuel + 1, goal :: goals, done, tokens => do
    let (events, more, tokens) ← step handles goal tokens
    run handles fuel (more ++ goals) (events.reverse ++ done) tokens

/-- The directives in front of a document: one version at most, which must be known, and each handle
once. -/
def directives : (version : Bool) → Handles → List Token → Option (Handles × List Token)
  | seen, handles, .version major minor :: rest =>
    if seen || major ≠ 1 || (minor ≠ 1 && minor ≠ 2) then none else directives true handles rest
  | seen, handles, .tagDirective h s :: rest =>
    if (handles.lookup h).isSome then none else directives seen ((h, s) :: handles) rest
  | _, handles, rest => some (handles, rest)

def content (handles : Handles) (tokens : List Token) : Option (List Event × List Token) :=
  match tokens with
  | .version .. :: _ | .tagDirective .. :: _ | .documentStart :: _ | .documentEnd :: _
  | .streamEnd :: _ => some ([emptyScalar], tokens)
  | _ => run handles (4 * tokens.length + 4) [.node true false] [] tokens

def document (handles : Handles) (tokens : List Token) : Option (List Event × List Token) := do
  let (events, rest) ← content handles tokens
  match rest with
  | .documentEnd :: rest => some (events, rest)
  | rest => some (events, rest)

def explicitDocuments : (fuel : Nat) → List Token → Option (List (List Event))
  | 0, _ => none
  | fuel + 1, tokens =>
    match tokens.dropWhile (· == .documentEnd) with
    | [.streamEnd] => some []
    | tokens => do
      let (handles, tokens) ← directives false [] tokens
      match tokens with
      | .documentStart :: rest => do
        let (events, rest) ← document handles rest
        (explicitDocuments fuel rest).map (events :: ·)
      | _ => none

def beginsExplicitly : List Token → Bool
  | .version .. :: _ | .tagDirective .. :: _ | .documentStart :: _ | .streamEnd :: _ => true
  | _ => false

/-- The documents of a text; the first may lack its mark. -/
def documents (tokens : List Token) : Option (List (List Event)) :=
  if beginsExplicitly tokens then explicitDocuments (tokens.length + 1) tokens
  else do
    let (events, rest) ← run [] (4 * tokens.length + 4) [.node true false] [] tokens
    let rest := match rest with
      | .documentEnd :: rest => rest
      | rest => rest
    (explicitDocuments (tokens.length + 1) rest).map (events :: ·)

end Event

end ClusterImport.Yaml
