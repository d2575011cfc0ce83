import ClusterImport.Api.Request
import ClusterImport.Api.Response
/-!
Connections carry requests to a server and bring back its answers, or fail to. A scripted server
answers from a list, and with an empty internal error once the list is used up; it keeps the
requests. Of an unreachable server nothing comes back.
-/
namespace ClusterImport.Api

/-- What happens to a request, with the state of the world before and after. -/
abbrev Connection (σ : Type) := Request → σ → Except KubeError Response × σ

abbrev Exchange (σ : Type) := ExceptT KubeError (StateM σ)

variable {σ α : Type}

def unreachable : Connection σ := fun _ s => (.error .service, s)

structure Script where
  responses : List Response
  requests : List Request
deriving Repr

namespace Script

def afterwards : Response := ⟨500, []⟩

def send : Connection Script := fun request s =>
  (.ok (s.responses.headD afterwards), ⟨s.responses.tail, s.requests ++ [request]⟩)

end Script

def exchange (send : Connection σ) (d : Decode.Decoder α) (request : Except KubeError Request) :
    Exchange σ α := fun s =>
  match request with
  | .error e => (.error e, s)
  | .ok request =>
    let (response, s) := send request s
    (response.bind (·.read d), s)

end ClusterImport.Api
