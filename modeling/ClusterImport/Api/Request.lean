import ClusterImport.Error
import ClusterImport.Net.Uri
import ClusterImport.Resource.CapiCluster
/-!
Requests to a Kubernetes API. A collection of objects is found below its version, cluster-wide or in
a namespace, and an object below its collection. Names are put into a target as they are; if the
outcome is no target, or a name is empty, there is no request.
-/
namespace ClusterImport.Api

inductive Method
  | get
  | post
  | patch
deriving DecidableEq, Repr

structure Request where
  method : Method
  target : String
  contentType : Option String
  body : Option Json
deriving Repr

structure Collection where
  grouped : Bool
  apiVersion : String
  inNamespace : Option String
  plural : String
deriving DecidableEq, Repr

def versionPath (grouped : Bool) (apiVersion : String) : String :=
  (if grouped then "/apis/" else "/api/") ++ apiVersion

namespace Collection

def ofType (type : ResourceType) (inNamespace : Option String) : Collection :=
  ⟨!type.group.isEmpty, type.apiVersion, inNamespace, type.plural⟩

def path (c : Collection) : String :=
  let place := match c.inNamespace with
    | some ns => "/namespaces/" ++ ns ++ "/"
    | none => "/"
  versionPath c.grouped c.apiVersion ++ place ++ c.plural

def objectPath (c : Collection) (name : String) : Except KubeError String :=
  if name.isEmpty then .error .buildRequest else .ok (c.path ++ "/" ++ name)

end Collection

namespace Request

def target? (s : String) : Option String :=
  (Uri.ofChars? s.toList).map fun uri =>
    String.ofList (uri.path ++ (uri.query.map ('?' :: ·)).getD [])

def build (method : Method) (target : String) (contentType : Option String) (body : Option Json) :
    Except KubeError Request :=
  match target? target with
  | some target => .ok ⟨method, target, contentType, body⟩
  | none => .error .buildRequest

/-- Writes have a query, which is empty if there is none yet. -/
def withQuery (path : String) : String := if path.toList.contains '?' then path else path ++ "?"

def get (c : Collection) (name : String) : Except KubeError Request := do
  build .get (← c.objectPath name) none none

def create (c : Collection) (object : Json) : Except KubeError Request :=
  build .post (withQuery c.path) (some "application/json") (some object)

def mergePatch (c : Collection) (name : String) (patch : Json) : Except KubeError Request := do
  let path ← c.objectPath name
  build .patch (withQuery path) (some "application/merge-patch+json") (some patch)

def types (grouped : Bool) (apiVersion : String) : Except KubeError Request :=
  match target? (versionPath grouped apiVersion) with
  | some target => .ok ⟨.get, target, none, none⟩
  | none => .error .noTarget

end Request

end ClusterImport.Api
