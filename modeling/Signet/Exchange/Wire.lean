import Signet.Exchange.Request
import Signet.Json.Reader
import Signet.Json.Writer
import Signet.Text.Hex

/-!
# Requests and replies as lines

A carrier between the program and registries gets every request as a JSON object on one
line, and answers with one. Bytes are written in hexadecimal digits.
-/
namespace Signet

def headersToJson (headers : List (Text × Text)) : Json :=
  .object (headers.map fun h => (h.1, .text h.2))

def Request.toJson (q : Request) : Json :=
  let login : List (Text × Json) :=
    match q.credentials with
    | some c => [("username", .text c.username), ("password", .text c.password)]
    | none => []
  let digest : List (Text × Json) :=
    match q.digest with
    | some d => [("digest", .text d)]
    | none => []
  let data : List (Text × Json) :=
    match q.data with
    | some bytes => [("data", .text (Hex.encode bytes))]
    | none => []
  let always : List (Text × Json) :=
    [("method", .text q.method.name), ("url", .text q.url), ("headers", headersToJson q.headers),
     ("timeout", .int q.timeout), ("verify", .bool q.verifyTls)]
  .object (always ++ login ++ digest ++ data)

/-- The text of a body that an object describes, or the reason why there is none. -/
def BodyText.ofJson? (v : Json) : Option BodyText :=
  match v.member? "text", v.member? "undecodable", v.member? "unusable" with
  | some (.text t), _, _ => some (.legible t)
  | _, some (.text reason), _ => some (.illegible (.undecodable reason))
  | _, _, some (.text reason) => some (.illegible (.unusable reason))
  | _, _, _ => none

/-- The reply that an object describes: a status with headers, a body and its text, which may be
left out, or the reason why there is no response. -/
def Reply.ofJson? (v : Json) : Option Reply :=
  match v.member? "failure", v.member? "status" with
  | some (.text reason), _ => some (.failure reason)
  | _, some (.int status) => do
    let members := ((v.member? "headers").bind Json.members?).getD []
    let headers := members.filterMap fun (m : Text × Json) => m.2.text?.map fun t => (m.1, t)
    let body ← Hex.decode? (((v.member? "body").bind Json.text?).getD [])
    let r : RawResponse := ⟨status, headers, body⟩
    return (BodyText.ofJson? v).elim (.response r) fun text => .received (r.read text)
  | _, _ => none

def Request.line (q : Request) : Text := q.toJson.writeAscii

/-- The reply of a line; a line that describes none is a failure. -/
def Reply.ofLine (line : Text) : Reply :=
  match Json.read line with
  | .ok v => (Reply.ofJson? v).getD (.failure "the reply cannot be understood")
  | .error e => .failure e.message

end Signet
