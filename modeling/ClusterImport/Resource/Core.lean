import ClusterImport.Resource.CapiCluster
import ClusterImport.Text.Base64
/-!
Namespaces and secrets, the two core types that the import reads. A given version or kind must be
the type's own.
-/
namespace ClusterImport

open Decode Encode

def Decode.coreRoot (type : ResourceType) (v : Json) : Option (Dict Json) := do
  let ms ← members v
  let version ← orDefault type.apiVersion string "apiVersion" ms
  let kind ← orDefault type.kind string "kind" ms
  if version = type.apiVersion && kind = type.kind then some ms else none

structure NamespaceCondition where
  lastTransitionTime : Option Timestamp
  message : Option String
  reason : Option String
  status : String
  type : String
deriving DecidableEq, Repr

structure NamespaceStatus where
  conditions : Option (List NamespaceCondition)
  phase : Option String
deriving DecidableEq, Repr

structure Namespace where
  metadata : ObjectMeta
  spec : Option (Option (List String))
  status : Option NamespaceStatus
deriving Repr

namespace NamespaceCondition

def decode (v : Json) : Option NamespaceCondition := do
  let ms ← members v
  return {
    lastTransitionTime := ← maybe timestamp "lastTransitionTime" ms
    message := ← maybe string "message" ms
    reason := ← maybe string "reason" ms
    status := ← textOrEmpty "status" ms
    type := ← textOrEmpty "type" ms }

def encode (c : NamespaceCondition) : Json :=
  .obj (present "lastTransitionTime" (.str ·.renderSeconds) c.lastTransitionTime
    ++ present "message" .str c.message ++ present "reason" .str c.reason
    ++ [("status", .str c.status), ("type", .str c.type)])

end NamespaceCondition

namespace NamespaceStatus

def decode (v : Json) : Option NamespaceStatus := do
  let ms ← members v
  return {
    conditions := ← maybe (Decode.list NamespaceCondition.decode) "conditions" ms
    phase := ← maybe string "phase" ms }

def encode (s : NamespaceStatus) : Json :=
  .obj (present "conditions" (Encode.list NamespaceCondition.encode) s.conditions
    ++ present "phase" .str s.phase)

end NamespaceStatus

namespace Namespace

def resourceType : ResourceType := ⟨"", "v1", "Namespace", "namespaces"⟩

def decodeSpec (v : Json) : Option (Option (List String)) := do
  let ms ← members v
  maybe (Decode.list string) "finalizers" ms

def decode (v : Json) : Option Namespace := do
  let ms ← coreRoot resourceType v
  return {
    metadata := (← maybe ObjectMeta.decode "metadata" ms).getD {}
    spec := ← maybe decodeSpec "spec" ms
    status := ← maybe NamespaceStatus.decode "status" ms }

def encode (n : Namespace) : Json :=
  .obj ([("apiVersion", .str resourceType.apiVersion), ("kind", .str resourceType.kind),
      ("metadata", n.metadata.encode)]
    ++ present "spec" (fun fs => .obj (present "finalizers" .strings fs)) n.spec
    ++ present "status" NamespaceStatus.encode n.status)

end Namespace

structure Secret where
  data : Option (Dict (List UInt8))
deriving Repr

namespace Secret

def resourceType : ResourceType := ⟨"", "v1", "Secret", "secrets"⟩

/-- Null counts as no octets. -/
def octets : Json → Option (List UInt8)
  | .null => some []
  | v => (string v).bind fun s => Text.Base64.decode s.toList

/-- Fields that are not kept must still have their types. -/
def decode (v : Json) : Option Secret := do
  let ms ← coreRoot resourceType v
  let data ← maybe (dict octets) "data" ms
  let _ ← maybe ObjectMeta.decode "metadata" ms
  let _ ← maybe boolean "immutable" ms
  let _ ← maybe (dict string) "stringData" ms
  let _ ← maybe string "type" ms
  return { data }

end Secret

end ClusterImport
