import ClusterImport.Resource.Decode
/-!
Metadata that every Kubernetes object carries. Members outside of it are dropped on reading, and
times are written in whole seconds.
-/
namespace ClusterImport

structure OwnerReference where
  apiVersion : String
  kind : String
  name : String
  uid : String
  blockOwnerDeletion : Option Bool
  controller : Option Bool
deriving DecidableEq, Repr

structure ManagedFields where
  apiVersion : Option String
  fieldsType : Option String
  fieldsV1 : Option Json
  manager : Option String
  operation : Option String
  subresource : Option String
  time : Option Timestamp
deriving Repr

structure ObjectMeta where
  annotations : Option (OrderedDict String) := none
  creationTimestamp : Option Timestamp := none
  deletionGracePeriodSeconds : Option Int := none
  deletionTimestamp : Option Timestamp := none
  finalizers : Option (List String) := none
  generateName : Option String := none
  generation : Option Int := none
  labels : Option (OrderedDict String) := none
  managedFields : Option (List ManagedFields) := none
  name : Option String := none
  inNamespace : Option String := none
  ownerReferences : Option (List OwnerReference) := none
  resourceVersion : Option String := none
  selfLink : Option String := none
  uid : Option String := none
deriving Repr

open Decode Encode

namespace OwnerReference

def decode (v : Json) : Option OwnerReference := do
  let ms ← members v
  return {
    apiVersion := ← textOrEmpty "apiVersion" ms
    kind := ← textOrEmpty "kind" ms
    name := ← textOrEmpty "name" ms
    uid := ← textOrEmpty "uid" ms
    blockOwnerDeletion := ← maybe boolean "blockOwnerDeletion" ms
    controller := ← maybe boolean "controller" ms }

def encode (r : OwnerReference) : Json :=
  .obj ([("apiVersion", .str r.apiVersion)]
    ++ present "blockOwnerDeletion" .bool r.blockOwnerDeletion
    ++ present "controller" .bool r.controller
    ++ [("kind", .str r.kind), ("name", .str r.name), ("uid", .str r.uid)])

end OwnerReference

namespace ManagedFields

def decode (v : Json) : Option ManagedFields := do
  let ms ← members v
  return {
    apiVersion := ← maybe string "apiVersion" ms
    fieldsType := ← maybe string "fieldsType" ms
    fieldsV1 := ← maybe any "fieldsV1" ms
    manager := ← maybe string "manager" ms
    operation := ← maybe string "operation" ms
    subresource := ← maybe string "subresource" ms
    time := ← maybe timestamp "time" ms }

def encode (f : ManagedFields) : Json :=
  .obj (present "apiVersion" .str f.apiVersion
    ++ present "fieldsType" .str f.fieldsType
    ++ present "fieldsV1" id f.fieldsV1
    ++ present "manager" .str f.manager
    ++ present "operation" .str f.operation
    ++ present "subresource" .str f.subresource
    ++ present "time" (.str ·.renderSeconds) f.time)

end ManagedFields

namespace ObjectMeta

def decode (v : Json) : Option ObjectMeta := do
  let ms ← members v
  return {
    annotations := ← maybe (orderedDict string) "annotations" ms
    creationTimestamp := ← maybe timestamp "creationTimestamp" ms
    deletionGracePeriodSeconds := ← maybe (integer 64) "deletionGracePeriodSeconds" ms
    deletionTimestamp := ← maybe timestamp "deletionTimestamp" ms
    finalizers := ← maybe (Decode.list string) "finalizers" ms
    generateName := ← maybe string "generateName" ms
    generation := ← maybe (integer 64) "generation" ms
    labels := ← maybe (orderedDict string) "labels" ms
    managedFields := ← maybe (Decode.list ManagedFields.decode) "managedFields" ms
    name := ← maybe string "name" ms
    inNamespace := ← maybe string "namespace" ms
    ownerReferences := ← maybe (Decode.list OwnerReference.decode) "ownerReferences" ms
    resourceVersion := ← maybe string "resourceVersion" ms
    selfLink := ← maybe string "selfLink" ms
    uid := ← maybe string "uid" ms }

def encode (m : ObjectMeta) : Json :=
  .obj (present "annotations" (fun d => Encode.dict .str d.entries) m.annotations
    ++ present "creationTimestamp" (.str ·.renderSeconds) m.creationTimestamp
    ++ present "deletionGracePeriodSeconds" .int m.deletionGracePeriodSeconds
    ++ present "deletionTimestamp" (.str ·.renderSeconds) m.deletionTimestamp
    ++ present "finalizers" .strings m.finalizers
    ++ present "generateName" .str m.generateName
    ++ present "generation" .int m.generation
    ++ present "labels" (fun d => Encode.dict .str d.entries) m.labels
    ++ present "managedFields" (Encode.list ManagedFields.encode) m.managedFields
    ++ present "name" .str m.name
    ++ present "namespace" .str m.inNamespace
    ++ present "ownerReferences" (Encode.list OwnerReference.encode) m.ownerReferences
    ++ present "resourceVersion" .str m.resourceVersion
    ++ present "selfLink" .str m.selfLink
    ++ present "uid" .str m.uid)

/-- The name, or the beginning of a name that the server completes, or nothing. -/
def anyName (m : ObjectMeta) : String := (m.name.or m.generateName).getD ""

def label? (m : ObjectMeta) (key : String) : Option String := m.labels.bind (·.get? key)

def annotation? (m : ObjectMeta) (key : String) : Option String :=
  m.annotations.bind (·.get? key)

def setAnnotation (m : ObjectMeta) (key value : String) : ObjectMeta :=
  { m with annotations := some ((m.annotations.getD .empty).insert key value) }

def isDeleting (m : ObjectMeta) : Bool := m.deletionTimestamp.isSome

end ObjectMeta

end ClusterImport
