import ClusterImport.Text.Quoted
/-!
What can go wrong, by cause, with one message for each. An API server answers an error with a
status, a message, a reason and a code; a create is answered 409 `AlreadyExists` if the object is
there.
-/
namespace ClusterImport

structure ApiError where
  status : String
  message : String
  reason : String
  code : Nat
deriving DecidableEq, Repr

namespace ApiError

def failure (code : Nat) (reason message : String) : ApiError := ⟨"Failure", message, reason, code⟩

def text (e : ApiError) : String :=
  s!"ApiError: {e.message}: {e.reason} (ErrorResponse \x7b status: {Text.quoted e.status}, " ++
    s!"message: {Text.quoted e.message}, reason: {Text.quoted e.reason}, code: {e.code} \x7d)"

end ApiError

inductive KubeError
  | api (e : ApiError)
  /-- The request for an object cannot be written as one. -/
  | buildRequest
  /-- The request for the types of a version cannot be written as one. -/
  | noTarget
  | service
  | unexpectedAnswer
  | notUtf8
  | discovery
deriving DecidableEq, Repr

def KubeError.message : KubeError → String
  | .api e => e.text
  | .buildRequest => "the request cannot be built"
  | .noTarget => "the version cannot be part of a target"
  | .service => "no connection to the server"
  | .unexpectedAnswer => "the answer does not fit its type"
  | .notUtf8 => "the answer is not UTF-8"
  | .discovery => "the kind is not known to the server"

def KubeError.isAlreadyExists : KubeError → Bool
  | .api e => e.code == 409 && e.reason == "AlreadyExists"
  | _ => false

inductive FetchError
  | download
  | status (url : String) (code : Nat)
deriving DecidableEq, Repr

def FetchError.message : FetchError → String
  | .download => "downloading manifest: no answer"
  | .status url code => s!"downloading manifest from {url}: unexpected status {code}"

inductive ObjectFault
  | noMapping
  | noApiVersion
  | noKind
  | noName (kind : String)
  | metadata
  | described (text : String)
deriving DecidableEq, Repr

def ObjectFault.message : ObjectFault → String
  | .noMapping => "document is not a mapping"
  | .noApiVersion => "missing apiVersion"
  | .noKind => "missing kind"
  | .noName kind => s!"{kind} has neither metadata.name nor metadata.generateName"
  | .metadata => "<json>"
  | .described text => text

inductive ReadFault
  | notUtf8
  | described (text : String)
deriving DecidableEq, Repr

def ReadFault.message : ReadFault → String
  | .notUtf8 => "stream did not contain valid UTF-8"
  | .described text => text

inductive ManifestError
  /-- Something other than a comment follows a separator. -/
  | separator (line : Nat) (content : String)
  | yaml (document : Nat)
  | object (document : Nat) (fault : ObjectFault)
  | read (fault : ReadFault)
deriving DecidableEq, Repr

def ManifestError.message : ManifestError → String
  | .separator line content =>
    s!"invalid document separator at line {line}: {Text.quoted content}"
  | .yaml document => s!"failed to parse manifest document {document}: <yaml>"
  | .object document fault => s!"invalid object in manifest document {document}: {fault.message}"
  | .read fault => s!"failed to read manifest: {fault.message}"

inductive KubeconfigError
  | noKey (secret key : String)
  /-- The secret's text is no kubeconfig. -/
  | unreadable (secret : String)
  /-- The kubeconfig names no server to talk to. -/
  | unusable
  | described (text : String)
deriving DecidableEq, Repr

def KubeconfigError.message : KubeconfigError → String
  | .noKey secret key => s!"secret {secret} has no {Text.quoted key} key"
  | .unreadable secret => s!"secret {secret}: not a kubeconfig"
  | .unusable => "the kubeconfig names no server"
  | .described text => text

inductive ControllerError
  | kube (e : KubeError)
  | fetch (e : FetchError)
  | manifest (e : ManifestError)
  | remoteCreate (kind name : String) (source : KubeError)
  | kubeconfig (e : KubeconfigError)
  | invalidConfig (text : String)
  | invalidResource (text : String)
  | metrics (text : String)
  | server (text : String)
  | watch (text : String)
  | aggregate (errors : List ControllerError)
deriving Repr

namespace ControllerError

mutual

def message : ControllerError → String
  | kube e => "Kubernetes error: " ++ e.message
  | fetch e => "Manifest download failed: " ++ e.message
  | manifest e => "Manifest error: " ++ e.message
  | remoteCreate kind name source =>
    s!"Failed to create {kind} {name} on workload cluster: {source.message}"
  | kubeconfig e => "Workload cluster kubeconfig error: " ++ e.message
  | invalidConfig text => "Invalid configuration: " ++ text
  | invalidResource text => "Invalid resource: " ++ text
  | metrics text => "Metrics error: Error: " ++ text
  | server text => "Probe server error: " ++ text
  | watch text => "Resource watch failed: " ++ text
  | aggregate errors => "[" ++ ", ".intercalate (messages errors) ++ "]"

def messages : List ControllerError → List String
  | [] => []
  | e :: rest => message e :: messages rest

end

def join : List ControllerError → Option ControllerError
  | [] => none
  | [e] => some e
  | errors => some (aggregate errors)

end ControllerError

end ClusterImport
