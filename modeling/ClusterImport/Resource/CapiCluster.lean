import ClusterImport.Resource.ObjectMeta
/-!
The Cluster API definition of a workload cluster, as far as the import reads it. Unknown members are
dropped. The control plane is ready by the flag of the status or by its condition.
-/
namespace ClusterImport

structure ResourceType where
  group : String
  version : String
  kind : String
  plural : String
deriving DecidableEq, Repr

/-- Core types have no group. -/
def ResourceType.apiVersion (t : ResourceType) : String :=
  if t.group.isEmpty then t.version else t.group ++ "/" ++ t.version

open Decode Encode

/-- Metadata, specification and status of an object, by name or as a list of all three. -/
def Decode.root (v : Json) : Option (Dict Json) :=
  match v with
  | .obj ms => some ms
  | .arr [m, s, t] => some [("metadata", m), ("spec", s), ("status", t)]
  | _ => none

structure ApiEndpoint where
  host : String
  port : Int
deriving DecidableEq, Repr

structure ObjectReference where
  apiVersion : Option String
  kind : Option String
  name : Option String
  inNamespace : Option String
deriving DecidableEq, Repr

structure CapiClusterSpec where
  paused : Option Bool := none
  controlPlaneEndpoint : Option ApiEndpoint := none
  controlPlaneRef : Option ObjectReference := none
  infrastructureRef : Option ObjectReference := none
deriving DecidableEq, Repr

structure Condition where
  type : String
  status : String
  severity : Option String
  reason : Option String
  message : Option String
  lastTransitionTime : Option Timestamp
deriving DecidableEq, Repr

structure CapiClusterStatus where
  phase : Option String
  infrastructureReady : Bool
  controlPlaneReady : Bool
  conditions : List Condition
  observedGeneration : Option Int
deriving DecidableEq, Repr

structure CapiCluster where
  metadata : ObjectMeta
  spec : CapiClusterSpec
  status : Option CapiClusterStatus
deriving Repr

namespace ApiEndpoint

def decode (v : Json) : Option ApiEndpoint := do
  let ms ← fields ["host", "port"] v
  return {
    host := ← orDefault "" string "host" ms
    port := ← orDefault 0 (integer 32) "port" ms }

def encode (e : ApiEndpoint) : Json := .obj [("host", .str e.host), ("port", .int e.port)]

end ApiEndpoint

namespace ObjectReference

def decode (v : Json) : Option ObjectReference := do
  let ms ← fields ["apiVersion", "kind", "name", "namespace"] v
  return {
    apiVersion := ← maybe string "apiVersion" ms
    kind := ← maybe string "kind" ms
    name := ← maybe string "name" ms
    inNamespace := ← maybe string "namespace" ms }

def encode (r : ObjectReference) : Json :=
  .obj (present "apiVersion" .str r.apiVersion
    ++ present "kind" .str r.kind
    ++ present "name" .str r.name
    ++ present "namespace" .str r.inNamespace)

end ObjectReference

namespace CapiClusterSpec

def decode (v : Json) : Option CapiClusterSpec := do
  let ms ← fields ["paused", "controlPlaneEndpoint", "controlPlaneRef", "infrastructureRef"] v
  return {
    paused := ← maybe boolean "paused" ms
    controlPlaneEndpoint := ← maybe ApiEndpoint.decode "controlPlaneEndpoint" ms
    controlPlaneRef := ← maybe ObjectReference.decode "controlPlaneRef" ms
    infrastructureRef := ← maybe ObjectReference.decode "infrastructureRef" ms }

def encode (s : CapiClusterSpec) : Json :=
  .obj (present "controlPlaneEndpoint" ApiEndpoint.encode s.controlPlaneEndpoint
    ++ present "controlPlaneRef" ObjectReference.encode s.controlPlaneRef
    ++ present "infrastructureRef" ObjectReference.encode s.infrastructureRef
    ++ present "paused" .bool s.paused)

end CapiClusterSpec

namespace Condition

def decode (v : Json) : Option Condition := do
  let ms ← fields ["type", "status", "severity", "reason", "message", "lastTransitionTime"] v
  return {
    type := ← required string "type" ms
    status := ← required string "status" ms
    severity := ← maybe string "severity" ms
    reason := ← maybe string "reason" ms
    message := ← maybe string "message" ms
    lastTransitionTime := ← maybe timestamp "lastTransitionTime" ms }

def encode (c : Condition) : Json :=
  .obj (present "lastTransitionTime" (.str ·.render) c.lastTransitionTime
    ++ present "message" .str c.message
    ++ present "reason" .str c.reason
    ++ present "severity" .str c.severity
    ++ [("status", .str c.status), ("type", .str c.type)])

end Condition

namespace CapiClusterStatus

def decode (v : Json) : Option CapiClusterStatus := do
  let ms ← fields ["phase", "infrastructureReady", "controlPlaneReady", "conditions",
    "observedGeneration"] v
  return {
    phase := ← maybe string "phase" ms
    infrastructureReady := ← orDefault false boolean "infrastructureReady" ms
    controlPlaneReady := ← orDefault false boolean "controlPlaneReady" ms
    conditions := ← orDefault [] (Decode.list Condition.decode) "conditions" ms
    observedGeneration := ← maybe (integer 64) "observedGeneration" ms }

def encode (s : CapiClusterStatus) : Json :=
  .obj (nonEmptyList "conditions" Condition.encode s.conditions
    ++ [("controlPlaneReady", .bool s.controlPlaneReady),
      ("infrastructureReady", .bool s.infrastructureReady)]
    ++ present "observedGeneration" .int s.observedGeneration
    ++ present "phase" .str s.phase)

end CapiClusterStatus

namespace CapiCluster

def resourceType : ResourceType := ⟨"cluster.x-k8s.io", "v1beta1", "Cluster", "clusters"⟩

def decode (v : Json) : Option CapiCluster := do
  let ms ← root v
  return {
    metadata := ← required ObjectMeta.decode "metadata" ms
    spec := ← required CapiClusterSpec.decode "spec" ms
    status := ← maybe CapiClusterStatus.decode "status" ms }

def encode (c : CapiCluster) : Json :=
  .obj ([("apiVersion", .str resourceType.apiVersion), ("kind", .str resourceType.kind),
      ("metadata", c.metadata.encode), ("spec", c.spec.encode)]
    ++ present "status" CapiClusterStatus.encode c.status)

def conditionIsTrue (c : CapiCluster) (type : String) : Bool :=
  c.status.any fun s => s.conditions.any fun d => d.type == type && d.status == "True"

def isControlPlaneReady (c : CapiCluster) : Bool :=
  c.status.any (·.controlPlaneReady) || c.conditionIsTrue "ControlPlaneReady"

end CapiCluster

end ClusterImport
