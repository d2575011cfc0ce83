import ClusterImport.Api.Request
import ClusterImport.Resource.Core
/-!
The types that a server offers in a version. A kind is found among the types that are no part of
another; the type's name is its plural. Whether objects of it live in namespaces is told by the
first type of that name.
-/
namespace ClusterImport.Api

structure OfferedType where
  /-- The plural; a slash stands before the name of a part. -/
  name : String
  kind : String
  inNamespaces : Bool
  group : Option String
deriving DecidableEq, Repr

structure Offer where
  groupVersion : String
  types : List OfferedType
deriving DecidableEq, Repr

open Decode

/-- Fields that are not kept must still have their types. -/
def OfferedType.decode (v : Json) : Option OfferedType := do
  let ms ← members v
  let _ ← maybe (list string) "categories" ms
  let _ ← maybe (list string) "shortNames" ms
  let _ ← maybe (list string) "verbs" ms
  let _ ← ["singularName", "storageVersionHash", "version"].mapM fun key => maybe string key ms
  return {
    name := ← textOrEmpty "name" ms
    kind := ← textOrEmpty "kind" ms
    inNamespaces := (← maybe boolean "namespaced" ms).getD false
    group := ← maybe string "group" ms }

namespace Offer

def resourceType : ResourceType := ⟨"", "v1", "APIResourceList", "apiresourcelists"⟩

def decode (v : Json) : Option Offer := do
  let ms ← coreRoot resourceType v
  return {
    groupVersion := ← textOrEmpty "groupVersion" ms
    types := (← maybe (list OfferedType.decode) "resources" ms).getD [] }

def groupAndVersion (o : Offer) : String × String :=
  let s := o.groupVersion.toList
  let group := s.takeWhile (· != '/')
  if group.length = s.length then ("", o.groupVersion)
  else if group.isEmpty then ("", String.ofList (s.drop 1))
  else (String.ofList group, o.groupVersion)

def collection? (o : Offer) (kind : String) (inNamespace : Option String) : Option Collection := do
  let type ← o.types.find? fun t => t.kind == kind && !t.name.toList.contains '/'
  let first ← o.types.find? fun t => t.name == type.name
  let (group, version) := o.groupAndVersion
  some {
    grouped := !(type.group.getD group).isEmpty
    apiVersion := version
    inNamespace := if first.inNamespaces then some (inNamespace.getD "default") else none
    plural := type.name }

end Offer

end ClusterImport.Api
