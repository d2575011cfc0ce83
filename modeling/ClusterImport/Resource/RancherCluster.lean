import ClusterImport.Resource.CapiCluster
/-!
The Rancher side of an imported cluster. Rancher fills in the status: the name of its management
cluster, and whether the agent has registered.
-/
namespace ClusterImport

open Decode Encode

structure RancherClusterSpec where
  kubernetesVersion : Option String := none
  rkeConfig : Option Json := none
deriving Repr

structure RancherClusterStatus where
  clusterName : String
  agentDeployed : Bool
  ready : Bool
deriving DecidableEq, Repr

structure RancherCluster where
  metadata : ObjectMeta
  spec : RancherClusterSpec
  status : Option RancherClusterStatus
deriving Repr

namespace RancherClusterSpec

def decode (v : Json) : Option RancherClusterSpec := do
  let ms ← fields ["kubernetesVersion", "rkeConfig"] v
  return {
    kubernetesVersion := ← maybe string "kubernetesVersion" ms
    rkeConfig := ← maybe any "rkeConfig" ms }

def encode (s : RancherClusterSpec) : Json :=
  .obj (present "kubernetesVersion" .str s.kubernetesVersion ++ present "rkeConfig" id s.rkeConfig)

end RancherClusterSpec

namespace RancherClusterStatus

def decode (v : Json) : Option RancherClusterStatus := do
  let ms ← fields ["clusterName", "agentDeployed", "ready"] v
  return {
    clusterName := ← orDefault "" string "clusterName" ms
    agentDeployed := ← orDefault false boolean "agentDeployed" ms
    ready := ← orDefault false boolean "ready" ms }

def encode (s : RancherClusterStatus) : Json :=
  .obj ([("agentDeployed", .bool s.agentDeployed)] ++ nonEmpty "clusterName" s.clusterName
    ++ [("ready", .bool s.ready)])

end RancherClusterStatus

namespace RancherCluster

def resourceType : ResourceType := ⟨"provisioning.cattle.io", "v1", "Cluster", "clusters"⟩

def decode (v : Json) : Option RancherCluster := do
  let ms ← root v
  return {
    metadata := ← required ObjectMeta.decode "metadata" ms
    spec := ← required RancherClusterSpec.decode "spec" ms
    status := ← maybe RancherClusterStatus.decode "status" ms }

def encode (c : RancherCluster) : Json :=
  .obj ([("apiVersion", .str resourceType.apiVersion), ("kind", .str resourceType.kind),
      ("metadata", c.metadata.encode), ("spec", c.spec.encode)]
    ++ present "status" RancherClusterStatus.encode c.status)

def managementName? (c : RancherCluster) : Option String :=
  (c.status.map (·.clusterName)).filter (!·.isEmpty)

def agentDeployed (c : RancherCluster) : Bool := c.status.any (·.agentDeployed)

def isDeleting (c : RancherCluster) : Bool := c.metadata.isDeleting

end RancherCluster

end ClusterImport
