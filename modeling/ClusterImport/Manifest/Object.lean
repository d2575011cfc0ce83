import ClusterImport.Error
import ClusterImport.Resource.ObjectMeta
import ClusterImport.Text.Blank
import ClusterImport.Text.Lines
import ClusterImport.Yaml.Document
/-!
Objects of a manifest document. A document is one object or a list of them; blank documents hold
none. An object has a version, a kind and a name, or the beginning of a name; its metadata is kept
as far as it is known, and every other member as it is.
-/
namespace ClusterImport.Manifest

structure Object where
  apiVersion : String
  kind : String
  name : Option String
  generateName : Option String
  inNamespace : Option String
  payload : Dict Json
deriving Repr

namespace Object

def text? (v : Option Json) : Option String := (v.bind Json.str?).filter (!·.isEmpty)

def ofJson (v : Json) : Except ObjectFault Object := do
  let apiVersion ← (text? (v.get? "apiVersion")).elim (.error .noApiVersion) .ok
  let kind ← (text? (v.get? "kind")).elim (.error .noKind) .ok
  let meta? := v.get? "metadata"
  let name := text? (meta?.bind (·.get? "name"))
  let generateName := text? (meta?.bind (·.get? "generateName"))
  if name.isNone && generateName.isNone then .error (.noName kind)
  let inNamespace := text? (meta?.bind (·.get? "namespace"))
  match v, meta?.bind ObjectMeta.decode with
  | .obj members, some metadata =>
    return {
      apiVersion, kind, name, generateName, inNamespace
      payload := Dict.insert "metadata" metadata.encode members }
  | _, _ => .error .metadata

def displayName (o : Object) : String := (o.name.or o.generateName).getD ""

def groupVersion (o : Object) : String × String :=
  let s := o.apiVersion.toList
  let version := (s.reverse.takeWhile (· != '/')).reverse
  if version.length = s.length then ("", o.apiVersion)
  else (String.ofList (s.take (s.length - version.length - 1)), String.ofList version)

end Object

def isContent (line : List Char) : Bool :=
  match Text.trim line with
  | [] => false
  | c :: _ => c != '#'

def hasContent (raw : String) : Bool := (Text.cutAfter (· == '\n') raw.toList).any isContent

/-- The items of a list: of a value whose kind ends in `List` and whose items are an array. -/
def listItems? (v : Json) : Option (List Json) :=
  let isList := ((v.get? "kind").bind Json.str?).any (·.endsWith "List")
  match v.get? "items" with
  | some (.arr items) => if isList then some items else none
  | _ => none

def objectsOf (v : Json) : Except ObjectFault (List Object) :=
  match v with
  | .null => .ok []
  | .obj _ =>
    match listItems? v with
    | some items => items.mapM Object.ofJson
    | none => (Object.ofJson v).map ([·])
  | _ => .error .noMapping

def parseDocument (raw : String) (number : Nat) : Except ManifestError (List Object) :=
  if !hasContent raw then .ok []
  else match Yaml.read? raw with
    | none => .error (.yaml number)
    | some v => (objectsOf v).mapError (.object number)

end ClusterImport.Manifest
