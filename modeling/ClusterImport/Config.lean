import ClusterImport.Flag
import ClusterImport.Net.SocketAddress
import ClusterImport.Text.Blank
import ClusterImport.Text.Quoted
/-!
Settings of the controller, read once from variables. A blank value counts as unset. An invalid
value stops the reading, and the first one in a fixed order is reported.
-/
namespace ClusterImport

structure Config where
  /-- Namespace to watch; without one all are watched. -/
  watchNamespace : Option String
  watchFilter : Option String
  insecureSkipVerify : Bool
  /-- Seconds that a manifest download may take. -/
  manifestTimeout : Option Nat
  /-- Seconds before a cluster that waits is looked at again. -/
  requeueAfter : Nat
  concurrency : Nat
  probeAddress : SocketAddress
deriving DecidableEq, Repr

inductive ConfigError
  | integer (key : String) (cause : IntegerError) (value : String)
  | noConcurrency
  | flag (key value : String)
  | address (key value : String)
deriving DecidableEq, Repr

def ConfigError.message : ConfigError → String
  | .integer key cause value => s!"{key}: {cause.message} ({Text.quoted value})"
  | .noConcurrency => "RECONCILE_CONCURRENCY must be greater than zero"
  | .flag key value => s!"{key}: invalid boolean {Text.quoted value}"
  | .address key value => s!"{key}: invalid socket address syntax ({Text.quoted value})"

namespace Config

abbrev Lookup := String → Option String

def set? (lookup : Lookup) (key : String) : Option String :=
  (lookup key).filter fun v => !Text.allBlank v

def integer (key : String) (bound : Nat) (value : String) : Except ConfigError Nat :=
  match readNat bound (Text.trim value.toList) with
  | .ok n => .ok n
  | .error cause => .error (.integer key cause value)

def flag (key value : String) : Except ConfigError Bool :=
  match Flag.ofText? (Text.trimmed value) with
  | some b => .ok b
  | none => .error (.flag key value)

def address (key value : String) : Except ConfigError SocketAddress :=
  match SocketAddress.ofChars? (Text.trim value.toList) with
  | some a => .ok a
  | none => .error (.address key value)

def readOr (lookup : Lookup) (key : String) (read : String → Except ConfigError α) (default : α) :
    Except ConfigError α :=
  match set? lookup key with
  | some value => read value
  | none => .ok default

def positive (n : Nat) : Except ConfigError Nat :=
  if n = 0 then .error .noConcurrency else .ok n

def load (lookup : Lookup) : Except ConfigError Config := do
  let requeueAfter ←
    readOr lookup "REQUEUE_AFTER_SECS" (integer "REQUEUE_AFTER_SECS" (Nat.pow 2 64)) 60
  let concurrency ←
    readOr lookup "RECONCILE_CONCURRENCY" (integer "RECONCILE_CONCURRENCY" (Nat.pow 2 16)) 10
  let concurrency ← positive concurrency
  let manifestTimeout ← readOr lookup "MANIFEST_DOWNLOAD_TIMEOUT_SECS"
    (fun v => some <$> integer "MANIFEST_DOWNLOAD_TIMEOUT_SECS" (Nat.pow 2 64) v) none
  let insecureSkipVerify ←
    readOr lookup "INSECURE_SKIP_VERIFY" (flag "INSECURE_SKIP_VERIFY") false
  let probeAddress ←
    readOr lookup "PROBE_ADDR" (address "PROBE_ADDR") (.v4 ⟨[0, 0, 0, 0]⟩ 8080)
  return {
    watchNamespace := set? lookup "WATCH_NAMESPACE"
    watchFilter := set? lookup "WATCH_FILTER_VALUE"
    insecureSkipVerify, manifestTimeout, requeueAfter, concurrency, probeAddress }

end Config

end ClusterImport
