import ClusterImport.Error
import ClusterImport.Json.Reader
import ClusterImport.Resource.Decode
/-!
Answers of a Kubernetes API. A status from 400 up to 599 is an error, which the body describes; if
it does not, the error is made up of the status and the body's text. Any other status is a success,
and the body then has to be what was asked for.
-/
namespace ClusterImport.Api

structure Response where
  status : Nat
  body : List UInt8
deriving DecidableEq, Repr

def reasonPhrase : Nat → String
  | 400 => "Bad Request"
  | 401 => "Unauthorized"
  | 402 => "Payment Required"
  | 403 => "Forbidden"
  | 404 => "Not Found"
  | 405 => "Method Not Allowed"
  | 406 => "Not Acceptable"
  | 407 => "Proxy Authentication Required"
  | 408 => "Request Timeout"
  | 409 => "Conflict"
  | 410 => "Gone"
  | 411 => "Length Required"
  | 412 => "Precondition Failed"
  | 413 => "Payload Too Large"
  | 414 => "URI Too Long"
  | 415 => "Unsupported Media Type"
  | 416 => "Range Not Satisfiable"
  | 417 => "Expectation Failed"
  | 418 => "I'm a teapot"
  | 421 => "Misdirected Request"
  | 422 => "Unprocessable Entity"
  | 423 => "Locked"
  | 424 => "Failed Dependency"
  | 425 => "Too Early"
  | 426 => "Upgrade Required"
  | 428 => "Precondition Required"
  | 429 => "Too Many Requests"
  | 431 => "Request Header Fields Too Large"
  | 451 => "Unavailable For Legal Reasons"
  | 500 => "Internal Server Error"
  | 501 => "Not Implemented"
  | 502 => "Bad Gateway"
  | 503 => "Service Unavailable"
  | 504 => "Gateway Timeout"
  | 505 => "HTTP Version Not Supported"
  | 506 => "Variant Also Negotiates"
  | 507 => "Insufficient Storage"
  | 508 => "Loop Detected"
  | 510 => "Not Extended"
  | 511 => "Network Authentication Required"
  | _ => "<unknown status code>"

namespace Response

open Decode

def text (r : Response) : Except KubeError String :=
  match String.fromUTF8? ⟨r.body.toArray⟩ with
  | some s => .ok s
  | none => .error .notUtf8

def isError (r : Response) : Bool := 400 ≤ r.status && r.status < 600

def describedError? (v : Json) : Option ApiError := do
  let ms ← record ["status", "message", "reason", "code"] v
  return {
    status := ← required string "status" ms
    message := ← orDefault "" string "message" ms
    reason := ← orDefault "" string "reason" ms
    code := ← required (natural 16) "code" ms }

def errorOf (status : Nat) (text : String) : ApiError :=
  ((Json.ofText? text).bind describedError?).getD {
    status := s!"{status} {reasonPhrase status}"
    message := Text.quoted text
    reason := "Failed to parse error data"
    code := status }

def read {α : Type} (d : Decoder α) (r : Response) : Except KubeError α := do
  let text ← r.text
  if r.isError then throw (.api (errorOf r.status text))
  match (Json.ofText? text).bind d with
  | some a => return a
  | none => throw .unexpectedAnswer

end Response

def found {α : Type} : Except KubeError α → Except KubeError (Option α)
  | .ok a => .ok (some a)
  | .error (.api e) => if e.reason = "NotFound" then .ok none else .error (.api e)
  | .error e => .error e

end ClusterImport.Api
