import ClusterImport.Metrics
import ClusterImport.Net.SocketAddress
import ClusterImport.Net.Uri
/-!
The probe server: liveness, readiness once the cache of CAPI clusters has synced, and the metrics.
-/
namespace ClusterImport

structure ProbeResponse where
  status : Nat
  contentType : Option String
  body : String
  allow : Option String
deriving DecidableEq, Repr

structure Probe where
  ready : Bool := false
  metrics : Option Metrics := none
deriving DecidableEq, Repr

namespace Probe

def isMethod (s : String) : Bool :=
  !s.isEmpty && s.toList.all fun c => c.isAlphanum || "!#$%&'*+-.^_\x60|~".toList.contains c

def plainText : String := "text/plain; charset=utf-8"

def text (status : Nat) (body : String) : ProbeResponse := ⟨status, some plainText, body, none⟩

def page (p : Probe) (path : String) : Option ProbeResponse :=
  match path with
  | "/healthz" => some (text 200 "ok")
  | "/readyz" => some (if p.ready then text 200 "ok" else text 503 "cache not synced")
  | "/metrics" =>
    some (match p.metrics with
      | none => text 200 ""
      | some m => ⟨200, some "text/plain; version=0.0.4", m.render, none⟩)
  | _ => none

/-- Reads are answered, without the body if only the head is asked for; another method is not
allowed where there is something to read. -/
def answer (p : Probe) (method : String) (target : Uri) : ProbeResponse :=
  match p.page (String.ofList target.path) with
  | none => ⟨404, none, "", none⟩
  | some response =>
    if method = "GET" then response
    else if method = "HEAD" then { response with body := "" }
    else ⟨405, none, "", some "GET,HEAD"⟩

def request (p : Probe) (method target : String) : Option ProbeResponse := do
  let uri ← Uri.ofChars? target.toList
  if !isMethod method then none
  some (p.answer method uri)

end Probe

namespace Ipv4

/-- Addresses that every host can listen on: any, loopback, multicast and broadcast. -/
def isListenable (a : Ipv4) : Bool :=
  match a.octets with
  | [0, 0, 0, 0] => true
  | [255, 255, 255, 255] => true
  | a :: _ => a == 127 || (224 ≤ a && a < 240)
  | [] => false

end Ipv4

def SocketAddress.isListenable : SocketAddress → Bool
  | .v4 a _ => a.isListenable
  | .v6 a _ _ =>
    match a.groups with
    | [0, 0, 0, 0, 0, 0, 0, g] => g ≤ 1
    | [0, 0, 0, 0, 0, 0xffff, x, y] =>
      Ipv4.isListenable ⟨[x / 256, x % 256, y / 256, y % 256]⟩
    | _ => false

end ClusterImport
