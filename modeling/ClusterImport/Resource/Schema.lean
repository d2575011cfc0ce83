import ClusterImport.Resource.RancherCluster
import ClusterImport.Resource.RegistrationToken
import ClusterImport.Yaml.Writer
/-!
Schemas of the resource types, and the custom resource definitions that declare them to a cluster. A
field is required if it has neither a default nor may be left out.
-/
namespace ClusterImport

mutual

inductive Schema
  | mk (description : Option String) (nullable : Bool) (default : Option Json) (shape : Shape)

inductive Shape
  | anything
  | boolean
  | integer (format : String)
  | text (format : Option String)
  | list (items : Schema)
  | object (fields : List (String × Bool × Schema))

end

namespace Schema

mutual

def toJson : Schema → Json
  | mk description nullable default shape =>
    .ofPairs (Encode.present "description" .str description
      ++ (if nullable then [("nullable", .bool true)] else [])
      ++ Encode.present "default" id default
      ++ shapeMembers shape)

def shapeMembers : Shape → List (String × Json)
  | .anything => []
  | .boolean => [("type", .str "boolean")]
  | .integer format => [("format", .str format), ("type", .str "integer")]
  | .text format => Encode.present "format" .str format ++ [("type", .str "string")]
  | .list items => [("items", toJson items), ("type", .str "array")]
  | .object fields =>
    let required := requiredNames fields
    [("properties", .ofPairs (propertyMembers fields)), ("type", .str "object")]
      ++ (if required.isEmpty then [] else [("required", .strings required)])

def propertyMembers : List (String × Bool × Schema) → List (String × Json)
  | [] => []
  | (name, _, schema) :: rest => (name, toJson schema) :: propertyMembers rest

def requiredNames : List (String × Bool × Schema) → List String
  | [] => []
  | (name, required, _) :: rest =>
    if required then name :: requiredNames rest else requiredNames rest

end

def optional (name : String) (description : Option String) (shape : Shape) :
    String × Bool × Schema :=
  (name, false, mk description true none shape)

def defaulted (name : String) (description : Option String) (value : Json) (shape : Shape) :
    String × Bool × Schema :=
  (name, false, mk description false (some value) shape)

def skipped (name : String) (description : Option String) (shape : Shape) :
    String × Bool × Schema :=
  (name, false, mk description false none shape)

def required (name : String) (description : Option String) (shape : Shape) :
    String × Bool × Schema :=
  (name, true, mk description false none shape)

end Schema

open Schema

def ObjectReference.shape : Shape :=
  .object [optional "apiVersion" none (.text none), optional "kind" none (.text none),
    optional "name" none (.text none), optional "namespace" none (.text none)]

def ApiEndpoint.shape : Shape :=
  .object [
    defaulted "host" (some "Hostname or IP of the API server") (.str "") (.text none),
    defaulted "port" (some "Port of the API server") (.int 0) (.integer "int32")]

def CapiClusterSpec.shape : Shape :=
  .object [
    optional "controlPlaneEndpoint"
      (some "Endpoint used to reach the workload cluster's API server") ApiEndpoint.shape,
    optional "controlPlaneRef" (some "Reference to the control plane provider object")
      ObjectReference.shape,
    optional "infrastructureRef" (some "Reference to the infrastructure provider object")
      ObjectReference.shape,
    optional "paused" (some "Whether reconciliation of this cluster is paused") .boolean]

def Condition.schema : Schema :=
  .mk (some ("A CAPI condition.\n\nDiffers from `metav1.Condition`: it carries a severity and " ++
      "has no\n`observedGeneration`.")) false none
    (.object [
      optional "lastTransitionTime" none (.text (some "date-time")),
      optional "message" none (.text none), optional "reason" none (.text none),
      optional "severity" none (.text none),
      required "status" (some "\"True\", \"False\" or \"Unknown\"") (.text none),
      required "type" none (.text none)])

def CapiClusterStatus.shape : Shape :=
  .object [
    skipped "conditions" (some "Observed conditions") (.list Condition.schema),
    defaulted "controlPlaneReady" (some "Whether the control plane is ready") (.bool false)
      .boolean,
    defaulted "infrastructureReady" (some "Whether the infrastructure is ready") (.bool false)
      .boolean,
    optional "observedGeneration" none (.integer "int64"),
    optional "phase"
      (some "Lifecycle phase (Pending, Provisioning, Provisioned, Deleting, Failed)") (.text none)]

def RancherClusterSpec.shape : Shape :=
  .object [
    optional "kubernetesVersion"
      (some "Kubernetes version, only set for Rancher-provisioned clusters") (.text none),
    skipped "rkeConfig" (some "RKE2/K3s configuration, opaque to this controller") .anything]

def RancherClusterStatus.shape : Shape :=
  .object [
    defaulted "agentDeployed" (some "Whether the cattle cluster agent has registered")
      (.bool false) .boolean,
    skipped "clusterName"
      (some "Name of the management cluster Rancher generated (e.g. \"c-m-abc123\")") (.text none),
    defaulted "ready" none (.bool false) .boolean]

def RegistrationToken.specShape : Shape :=
  .object [
    defaulted "clusterName" (some "Management cluster the token registers agents for") (.str "")
      (.text none)]

def RegistrationTokenStatus.shape : Shape :=
  .object [
    skipped "command" none (.text none), skipped "insecureCommand" none (.text none),
    skipped "manifestUrl" (some "URL serving the agent registration manifest") (.text none),
    skipped "token" none (.text none)]

structure Definition where
  type : ResourceType
  title : String
  spec : Shape
  status : Shape

namespace Definition

def capiCluster : Definition :=
  ⟨CapiCluster.resourceType, "CapiCluster", CapiClusterSpec.shape, CapiClusterStatus.shape⟩

def rancherCluster : Definition :=
  ⟨RancherCluster.resourceType, "RancherCluster", RancherClusterSpec.shape,
    RancherClusterStatus.shape⟩

def registrationToken : Definition :=
  ⟨RegistrationToken.resourceType, "ClusterRegistrationToken", RegistrationToken.specShape,
    RegistrationTokenStatus.shape⟩

def schema (d : Definition) : Json :=
  .ofPairs (("title", .str d.title) :: shapeMembers (.object [
      required "spec" none d.spec, optional "status" none d.status])
    ++ [("description",
      .str s!"Auto-generated derived type for {d.title}Spec via `CustomResource`")])

def version (d : Definition) : Json :=
  .ofPairs [
    ("additionalPrinterColumns", .arr []), ("name", .str d.type.version),
    ("schema", .ofPairs [("openAPIV3Schema", d.schema)]), ("served", .bool true),
    ("storage", .bool true), ("subresources", .ofPairs [("status", .obj [])])]

def names (d : Definition) : Json :=
  .ofPairs [
    ("categories", .arr []), ("kind", .str d.type.kind), ("plural", .str d.type.plural),
    ("shortNames", .arr []), ("singular", .str d.type.kind.toLower)]

def toJson (d : Definition) : Json :=
  .ofPairs [
    ("apiVersion", .str "apiextensions.k8s.io/v1"), ("kind", .str "CustomResourceDefinition"),
    ("metadata", .ofPairs [("name", .str (d.type.plural ++ "." ++ d.type.group))]),
    ("spec", .ofPairs [
      ("group", .str d.type.group), ("names", d.names), ("scope", .str "Namespaced"),
      ("versions", .arr [d.version])])]

def renderAll (ds : List Definition) : String :=
  String.join (ds.map fun d => "---\n" ++ Yaml.render d.toJson)

def rancherDefinitions : List Definition := [rancherCluster, registrationToken]

end Definition

end ClusterImport
