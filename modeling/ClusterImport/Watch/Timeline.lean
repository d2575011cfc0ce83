import ClusterImport.Store
import ClusterImport.Watch.Queue
/-!
The watch in virtual time. All stored objects are listed at second zero; events then arrive at their
seconds, and no time passes while there is work. Events change the cache of CAPI clusters and the
queue, never the store, on which the reconciles run. An object without a name cannot be kept track
of: a watch that meets one has no outcome.
-/
namespace ClusterImport

inductive Change
  | applied (cluster : CapiCluster)
  | deleted (cluster : CapiCluster)
  | rancher (cluster : RancherCluster)
  | inNamespace (ns : Namespace)
deriving Repr

structure WatchEvent where
  second : Nat
  change : Change
deriving Repr

namespace Change

def metadata : Change → ObjectMeta
  | applied cluster | deleted cluster => cluster.metadata
  | rancher cluster => cluster.metadata
  | inNamespace ns => ns.metadata

def isNamed (c : Change) : Bool := c.metadata.name.isSome

inductive Stream
  | clusters
  | ranchers
  | namespaces
deriving DecidableEq, Repr

def stream : Change → Stream
  | applied _ | deleted _ => .clusters
  | rancher _ => .ranchers
  | inNamespace _ => .namespaces

end Change

/-- An event does not arrive before an earlier one of its stream. -/
def WatchEvent.delayed (seen : List WatchEvent) (e : WatchEvent) : WatchEvent :=
  let earlier := seen.filter (·.change.stream == e.change.stream)
  ⟨(earlier.map (·.second)).foldl max e.second, e.change⟩

def WatchEvent.arrivals (events : List WatchEvent) : List WatchEvent :=
  events.foldl (fun seen e => seen ++ [e.delayed seen]) []

structure TimedCall where
  second : Nat
  entry : LogEntry
deriving Repr

structure Watcher where
  gate : Gate
  requeueAfter : Nat
  store : Store
  cache : List (ClusterRef × CapiCluster)
  queue : WorkQueue
  calls : List TimedCall

namespace Watcher

def request (w : Watcher) (second : Nat) (refs : List ClusterRef) : Watcher :=
  { w with queue := refs.foldl (fun q ref => q.request ref second) w.queue }

def forget (w : Watcher) (ref : ClusterRef) : Watcher :=
  { w with cache := w.cache.filter (·.1 != ref) }

/-- Takes in a change. A deleted CAPI cluster leaves the cache and asks for nothing. -/
def observe (w : Watcher) (second : Nat) : Change → Watcher
  | .applied cluster =>
    match ClusterRef.ofCapi cluster with
    | none => w
    | some ref =>
      let w := w.forget ref
      { w with cache := w.cache ++ [(ref, cluster)] }.request second [ref]
  | .deleted cluster => ((ClusterRef.ofCapi cluster).map w.forget).getD w
  | .rancher cluster => w.request second (ClusterRef.ofRancher cluster).toList
  | .inNamespace ns =>
    w.request second ((ClusterRef.ofNamespace ns (w.cache.map (·.2))).getD [])

/-- Runs one key. A key without a cached cluster is dropped; an error asks for another run. -/
def run (w : Watcher) (second : Nat) (ref : ClusterRef) : Watcher :=
  match w.cache.lookup ref with
  | none => w
  | some cluster =>
    let (result, store) := { w.store with log := [] }.run
      (gatedReconcile w.gate w.requeueAfter cluster)
    let delay := match result with
      | .ok requeue => requeue.delay?
      | .error _ => some w.requeueAfter
    let w := { w with store, calls := w.calls ++ store.log.map (⟨second, ·⟩) }
    match delay with
    | none => w
    | some delay => w.request (second + delay) [ref]

def tick (w : Watcher) (second : Nat) (events : List WatchEvent) : Watcher :=
  let arrived := events.filter (·.second == second)
  let w := arrived.foldl (fun w e => w.observe second e.change) w
  let (refs, queue) := w.queue.due second
  refs.foldl (fun w ref => w.run second ref) { w with queue }

def nextSecond? (w : Watcher) (second : Nat) (events : List WatchEvent) : Option Nat :=
  ((events.map (·.second) ++ w.queue.map (·.2)).filter (second < ·)).min?

/-- Goes from second to second up to the end, which is not reached. -/
def advance (events : List WatchEvent) (finish : Nat) :
    (fuel : Nat) → Nat → Watcher → Watcher
  | 0, _, w => w
  | fuel + 1, second, w =>
    if finish ≤ second then w
    else
      let w := w.tick second events
      match w.nextSecond? second events with
      | none => w
      | some next => advance events finish fuel next w

def listed (s : Store) : List Change :=
  s.clusters.map (.applied ·.2) ++ s.ranchers.map (.rancher ·.2)
    ++ s.namespaces.map (.inNamespace ·.2)

def watch? (gate : Gate) (requeueAfter : Nat) (store : Store) (events : List WatchEvent)
    (seconds : Nat) : Option Watcher :=
  let listed := listed store
  let arrivals := (WatchEvent.arrivals events).filter (·.second < seconds)
  if listed.all Change.isNamed && arrivals.all (·.change.isNamed) then
    let start : Watcher := ⟨gate, requeueAfter, store, [], [], []⟩
    let start := listed.foldl (fun w c => w.observe 0 c) start
    some (advance arrivals seconds seconds 0 start)
  else none

end Watcher

end ClusterImport
