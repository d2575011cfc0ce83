import Mathlib.Tactic.Simproc.ExistsAndEq
import ClusterImport.Proofs.Traversal
import ClusterImport.Resource.RancherCluster
import ClusterImport.Resource.RegistrationToken
/-!
Reading a value with fields. It succeeds just if each field is read, in whatever order, and then the
fields are what has been read of them.
-/
namespace ClusterImport

open Decode

theorem ManagedFields.decode_eq_some {v : Json} {f : ManagedFields} : decode v = some f ↔
    ∃ ms, Decode.members v = some ms ∧
      maybe string "apiVersion" ms = some f.apiVersion ∧
      maybe string "fieldsType" ms = some f.fieldsType ∧
      maybe any "fieldsV1" ms = some f.fieldsV1 ∧
      maybe string "manager" ms = some f.manager ∧
      maybe string "operation" ms = some f.operation ∧
      maybe string "subresource" ms = some f.subresource ∧
      maybe timestamp "time" ms = some f.time := by
  cases f
  rw [decode]
  simp [↓bind_eq_some_iff]

theorem ObjectMeta.decode_eq_some {v : Json} {m : ObjectMeta} : decode v = some m ↔
    ∃ ms, Decode.members v = some ms ∧
      maybe (orderedDict string) "annotations" ms = some m.annotations ∧
      maybe timestamp "creationTimestamp" ms = some m.creationTimestamp ∧
      maybe (integer 64) "deletionGracePeriodSeconds" ms = some m.deletionGracePeriodSeconds ∧
      maybe timestamp "deletionTimestamp" ms = some m.deletionTimestamp ∧
      maybe (Decode.list string) "finalizers" ms = some m.finalizers ∧
      maybe string "generateName" ms = some m.generateName ∧
      maybe (integer 64) "generation" ms = some m.generation ∧
      maybe (orderedDict string) "labels" ms = some m.labels ∧
      maybe (Decode.list ManagedFields.decode) "managedFields" ms = some m.managedFields ∧
      maybe string "name" ms = some m.name ∧
      maybe string "namespace" ms = some m.inNamespace ∧
      maybe (Decode.list OwnerReference.decode) "ownerReferences" ms = some m.ownerReferences ∧
      maybe string "resourceVersion" ms = some m.resourceVersion ∧
      maybe string "selfLink" ms = some m.selfLink ∧
      maybe string "uid" ms = some m.uid := by
  cases m
  rw [decode]
  -- outermost first: from within, each step would go through all that follow it twice
  simp [↓bind_eq_some_iff]

theorem ApiEndpoint.decode_eq_some {v : Json} {e : ApiEndpoint} : decode v = some e ↔
    ∃ ms, fields ["host", "port"] v = some ms ∧
      orDefault "" string "host" ms = some e.host ∧
      orDefault 0 (integer 32) "port" ms = some e.port := by
  cases e
  rw [decode]
  simp [↓bind_eq_some_iff]

theorem ObjectReference.decode_eq_some {v : Json} {r : ObjectReference} : decode v = some r ↔
    ∃ ms, fields ["apiVersion", "kind", "name", "namespace"] v = some ms ∧
      maybe string "apiVersion" ms = some r.apiVersion ∧
      maybe string "kind" ms = some r.kind ∧
      maybe string "name" ms = some r.name ∧
      maybe string "namespace" ms = some r.inNamespace := by
  cases r
  rw [decode]
  simp [↓bind_eq_some_iff]

theorem CapiClusterSpec.decode_eq_some {v : Json} {s : CapiClusterSpec} : decode v = some s ↔
    ∃ ms, fields ["paused", "controlPlaneEndpoint", "controlPlaneRef", "infrastructureRef"] v =
        some ms ∧
      maybe boolean "paused" ms = some s.paused ∧
      maybe ApiEndpoint.decode "controlPlaneEndpoint" ms = some s.controlPlaneEndpoint ∧
      maybe ObjectReference.decode "controlPlaneRef" ms = some s.controlPlaneRef ∧
      maybe ObjectReference.decode "infrastructureRef" ms = some s.infrastructureRef := by
  cases s
  rw [decode]
  simp [↓bind_eq_some_iff]

theorem Condition.decode_eq_some {v : Json} {c : Condition} : decode v = some c ↔
    ∃ ms, fields ["type", "status", "severity", "reason", "message", "lastTransitionTime"] v =
        some ms ∧
      required string "type" ms = some c.type ∧
      required string "status" ms = some c.status ∧
      maybe string "severity" ms = some c.severity ∧
      maybe string "reason" ms = some c.reason ∧
      maybe string "message" ms = some c.message ∧
      maybe timestamp "lastTransitionTime" ms = some c.lastTransitionTime := by
  cases c
  rw [decode]
  simp [↓bind_eq_some_iff]

theorem CapiClusterStatus.decode_eq_some {v : Json} {s : CapiClusterStatus} : decode v = some s ↔
    ∃ ms, fields ["phase", "infrastructureReady", "controlPlaneReady", "conditions",
        "observedGeneration"] v = some ms ∧
      maybe string "phase" ms = some s.phase ∧
      orDefault false boolean "infrastructureReady" ms = some s.infrastructureReady ∧
      orDefault false boolean "controlPlaneReady" ms = some s.controlPlaneReady ∧
      orDefault [] (Decode.list Condition.decode) "conditions" ms = some s.conditions ∧
      maybe (integer 64) "observedGeneration" ms = some s.observedGeneration := by
  cases s
  rw [decode]
  simp [↓bind_eq_some_iff, -Bool.exists_bool]

theorem RancherClusterSpec.decode_eq_some {v : Json} {s : RancherClusterSpec} : decode v = some s ↔
    ∃ ms, fields ["kubernetesVersion", "rkeConfig"] v = some ms ∧
      maybe string "kubernetesVersion" ms = some s.kubernetesVersion ∧
      maybe any "rkeConfig" ms = some s.rkeConfig := by
  cases s
  rw [decode]
  simp [↓bind_eq_some_iff]

theorem RancherClusterStatus.decode_eq_some {v : Json} {s : RancherClusterStatus} :
    decode v = some s ↔
    ∃ ms, fields ["clusterName", "agentDeployed", "ready"] v = some ms ∧
      orDefault "" string "clusterName" ms = some s.clusterName ∧
      orDefault false boolean "agentDeployed" ms = some s.agentDeployed ∧
      orDefault false boolean "ready" ms = some s.ready := by
  cases s
  rw [decode]
  simp [↓bind_eq_some_iff, -Bool.exists_bool]

theorem RegistrationTokenStatus.decode_eq_some {v : Json} {s : RegistrationTokenStatus} :
    decode v = some s ↔
    ∃ ms, fields ["manifestUrl", "token", "command", "insecureCommand"] v = some ms ∧
      orDefault "" string "manifestUrl" ms = some s.manifestUrl ∧
      orDefault "" string "token" ms = some s.token ∧
      orDefault "" string "command" ms = some s.command ∧
      orDefault "" string "insecureCommand" ms = some s.insecureCommand := by
  cases s
  rw [decode]
  simp [↓bind_eq_some_iff]

theorem CapiCluster.decode_eq_some {v : Json} {c : CapiCluster} : decode v = some c ↔
    ∃ ms, root v = some ms ∧
      required ObjectMeta.decode "metadata" ms = some c.metadata ∧
      required CapiClusterSpec.decode "spec" ms = some c.spec ∧
      maybe CapiClusterStatus.decode "status" ms = some c.status := by
  cases c
  rw [decode]
  simp [↓bind_eq_some_iff]

theorem RancherCluster.decode_eq_some {v : Json} {c : RancherCluster} : decode v = some c ↔
    ∃ ms, root v = some ms ∧
      required ObjectMeta.decode "metadata" ms = some c.metadata ∧
      required RancherClusterSpec.decode "spec" ms = some c.spec ∧
      maybe RancherClusterStatus.decode "status" ms = some c.status := by
  cases c
  rw [decode]
  simp [↓bind_eq_some_iff]

theorem RegistrationToken.decode_eq_some {v : Json} {t : RegistrationToken} : decode v = some t ↔
    ∃ ms, root v = some ms ∧
      required ObjectMeta.decode "metadata" ms = some t.metadata ∧
      required decodeSpec "spec" ms = some t.clusterName ∧
      maybe RegistrationTokenStatus.decode "status" ms = some t.status := by
  cases t
  rw [decode]
  simp [↓bind_eq_some_iff]

end ClusterImport
