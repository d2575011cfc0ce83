import ClusterImport.Watch
/-!
The work queue. A key runs five seconds after it was asked for. Asking again before that, for a time
no later than the planned run, starts the five seconds anew; asking for a later time changes
nothing.
-/
namespace ClusterImport

abbrev WorkQueue := List (ClusterRef × Nat)

namespace WorkQueue

def debounce : Nat := 5

def request (ref : ClusterRef) (second : Nat) : WorkQueue → WorkQueue
  | [] => [(ref, second + debounce)]
  | (other, planned) :: rest =>
    if other = ref then
      if second ≤ planned then rest ++ [(ref, second + debounce)] else (other, planned) :: rest
    else (other, planned) :: request ref second rest

def due (second : Nat) (q : WorkQueue) : List ClusterRef × WorkQueue :=
  ((q.filter (·.2 ≤ second)).map (·.1), q.filter (second < ·.2))

end WorkQueue

end ClusterImport
