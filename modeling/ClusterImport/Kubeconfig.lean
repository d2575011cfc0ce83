import ClusterImport.Net.Uri
import ClusterImport.Resource.Decode
import ClusterImport.Yaml.Document
/-!
Kubeconfigs: named clusters, users and contexts, and the name of the current context. A text may
hold several, which are joined: what an earlier one says stands, and kinds or versions must not
contradict each other. The current context leads to a cluster and that to a server.
-/
namespace ClusterImport

open Decode

structure KubeContext where
  cluster : String
  user : Option String
deriving DecidableEq, Repr

structure KubeCluster where
  server : Option String
deriving DecidableEq, Repr

structure Named (α : Type) where
  name : String
  value : Option α
deriving DecidableEq, Repr

structure Kubeconfig where
  kind : Option String := none
  apiVersion : Option String := none
  clusters : List (Named KubeCluster) := []
  users : List String := []
  contexts : List (Named KubeContext) := []
  currentContext : Option String := none
deriving DecidableEq, Repr

namespace Kubeconfig

/-! Fields that are not kept must still have their types. -/

def texts? (keys : List String) (ms : Dict Json) : Option (List (Option String)) :=
  keys.mapM fun key => maybe string key ms

def decodeExtension (v : Json) : Option Unit := do
  let ms ← members v
  let _ ← required string "name" ms
  let _ ← required any "extension" ms

def extensions? (ms : Dict Json) : Option (Option (List Unit)) :=
  maybe (list decodeExtension) "extensions" ms

def decodePreferences (v : Json) : Option Unit := do
  let ms ← members v
  let _ ← maybe boolean "colors" ms
  let _ ← extensions? ms

def decodeCluster (v : Json) : Option KubeCluster := do
  let ms ← members v
  let _ ← maybe boolean "insecure-skip-tls-verify" ms
  let _ ← maybe boolean "disable-compression" ms
  let _ ← texts?
    ["certificate-authority", "certificate-authority-data", "proxy-url", "tls-server-name"] ms
  let _ ← extensions? ms
  return { server := ← maybe string "server" ms }

def decodeContext (v : Json) : Option KubeContext := do
  let ms ← members v
  let _ ← maybe string "namespace" ms
  let _ ← extensions? ms
  return { cluster := ← required string "cluster" ms, user := ← maybe string "user" ms }

def decodeProvider (v : Json) : Option Unit := do
  let ms ← members v
  let _ ← required string "name" ms
  let _ ← orDefault [] (dict string) "config" ms

def decodeMode (v : Json) : Option Unit := do
  let s ← string v
  if ["Never", "IfAvailable", "Always"].contains s then some () else none

def decodeCommand (v : Json) : Option Unit := do
  let ms ← members v
  let _ ← texts? ["apiVersion", "command"] ms
  let _ ← maybe (list string) "args" ms
  let _ ← maybe (list (dict string)) "env" ms
  let _ ← maybe decodeMode "interactiveMode" ms
  let _ ← orDefault false boolean "provideClusterInfo" ms

def decodeUser (v : Json) : Option Unit := do
  let ms ← members v
  let _ ← texts? ["username", "password", "token", "tokenFile", "client-certificate",
    "client-certificate-data", "client-key", "client-key-data", "as"] ms
  let _ ← maybe (list string) "as-groups" ms
  let _ ← maybe decodeProvider "auth-provider" ms
  let _ ← maybe decodeCommand "exec" ms

def decodeNamed {α : Type} (key : String) (d : Decoder α) (v : Json) : Option (Named α) := do
  let ms ← members v
  return { name := ← required string "name" ms, value := ← maybe d key ms }

def entries {α : Type} (plural key : String) (d : Decoder α) (ms : Dict Json) :
    Option (List (Named α)) :=
  (maybe (list (decodeNamed key d)) plural ms).map (·.getD [])

def contents : Json → Option (Dict Json)
  | .null => some []
  | v => members v

def decode (v : Json) : Option Kubeconfig := do
  let ms ← contents v
  let _ ← maybe decodePreferences "preferences" ms
  let _ ← extensions? ms
  let users ← entries "users" "user" decodeUser ms
  return {
    kind := ← maybe string "kind" ms
    apiVersion := ← maybe string "apiVersion" ms
    clusters := ← entries "clusters" "cluster" decodeCluster ms
    users := users.map (·.name)
    contexts := ← entries "contexts" "context" decodeContext ms
    currentContext := ← maybe string "current-context" ms }

def agree (a b : Option String) : Bool :=
  match a, b with
  | some a, some b => a == b
  | _, _ => true

def extend {α : Type} (name : α → String) (entries others : List α) : List α :=
  entries ++ others.filter fun e => !(entries.map name).contains (name e)

def join (a b : Kubeconfig) : Option Kubeconfig :=
  if agree a.kind b.kind && agree a.apiVersion b.apiVersion then
    some {
      kind := a.kind.or b.kind
      apiVersion := a.apiVersion.or b.apiVersion
      clusters := extend (·.name) a.clusters b.clusters
      users := extend id a.users b.users
      contexts := extend (·.name) a.contexts b.contexts
      currentContext := a.currentContext.or b.currentContext }
  else none

/-- The kubeconfig of a text. Tags are passed over; a repeated key is a fault. -/
def ofText? (text : String) : Option Kubeconfig := do
  let values ← Yaml.readAll? ⟨true, false⟩ text
  let configs ← values.mapM decode
  configs.foldlM join {}

def lookup {α : Type} (name : String) (entries : List (Named α)) : Option α :=
  (entries.find? fun e => e.name == name).bind (·.value)

def server? (k : Kubeconfig) : Option Uri := do
  let context ← lookup (← k.currentContext) k.contexts
  let cluster ← lookup context.cluster k.clusters
  Uri.ofChars? (← cluster.server).toList

end Kubeconfig

end ClusterImport
