import ClusterImport.Resource.CapiCluster
/-!
Tokens that register an agent with a management cluster. Once Rancher has processed one, its status
holds the address of the manifest to apply.
-/
namespace ClusterImport

open Decode Encode

structure RegistrationTokenStatus where
  manifestUrl : String
  token : String
  command : String
  insecureCommand : String
deriving DecidableEq, Repr

structure RegistrationToken where
  metadata : ObjectMeta
  clusterName : String
  status : Option RegistrationTokenStatus
deriving Repr

namespace RegistrationTokenStatus

def decode (v : Json) : Option RegistrationTokenStatus := do
  let ms ← fields ["manifestUrl", "token", "command", "insecureCommand"] v
  return {
    manifestUrl := ← orDefault "" string "manifestUrl" ms
    token := ← orDefault "" string "token" ms
    command := ← orDefault "" string "command" ms
    insecureCommand := ← orDefault "" string "insecureCommand" ms }

def encode (s : RegistrationTokenStatus) : Json :=
  .obj (nonEmpty "command" s.command ++ nonEmpty "insecureCommand" s.insecureCommand
    ++ nonEmpty "manifestUrl" s.manifestUrl ++ nonEmpty "token" s.token)

end RegistrationTokenStatus

namespace RegistrationToken

def resourceType : ResourceType :=
  ⟨"management.cattle.io", "v3", "ClusterRegistrationToken", "clusterregistrationtokens"⟩

def decodeSpec (v : Json) : Option String := do
  let ms ← fields ["clusterName"] v
  orDefault "" string "clusterName" ms

def decode (v : Json) : Option RegistrationToken := do
  let ms ← root v
  return {
    metadata := ← required ObjectMeta.decode "metadata" ms
    clusterName := ← required decodeSpec "spec" ms
    status := ← maybe RegistrationTokenStatus.decode "status" ms }

def encode (t : RegistrationToken) : Json :=
  .obj ([("apiVersion", .str resourceType.apiVersion), ("kind", .str resourceType.kind),
      ("metadata", t.metadata.encode), ("spec", .obj [("clusterName", .str t.clusterName)])]
    ++ present "status" RegistrationTokenStatus.encode t.status)

def manifestUrl? (t : RegistrationToken) : Option String :=
  (t.status.map (·.manifestUrl)).filter (!·.isEmpty)

end RegistrationToken

end ClusterImport
