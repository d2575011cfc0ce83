import ClusterImport.Client
import ClusterImport.Manifest.DocumentReader
/-!
Applying a manifest to a workload cluster: each object of each document is created in order. An
object that exists already is counted and passed over; any other failure ends the application and
leaves in place what was created before it.
-/
namespace ClusterImport.Manifest

variable {W : Type}

def createAll (client : W) : List Object → ApplyOutcome → Import W ApplyOutcome
  | [], outcome => pure outcome
  | object :: rest, outcome => do
    match ← Import.createObject client object with
    | .ok () => createAll client rest { outcome with created := outcome.created + 1 }
    | .error e =>
      if e.isAlreadyExists then
        createAll client rest { outcome with alreadyExisting := outcome.alreadyExisting + 1 }
      else throw (.remoteCreate object.kind object.displayName e)

def applyDocuments (client : W) : List String → (number : Nat) → ApplyOutcome →
    Import W ApplyOutcome
  | [], _, outcome => pure outcome
  | raw :: rest, number, outcome => do
    let objects ← Import.ofExcept ((parseDocument raw number).mapError .manifest)
    let outcome ← createAll client objects outcome
    applyDocuments client rest (number + 1) outcome

def apply (client : W) (octets : List UInt8) : Import W ApplyOutcome := do
  let (documents, fault) := (DocumentReader.ofOctets octets).readAll
  let outcome ← applyDocuments client documents 1 {}
  match fault with
  | some e => throw (.manifest e)
  | none => pure outcome

end ClusterImport.Manifest
