import Signet.Text.Lowercase
import Signet.Text.Utf8

/-!
# Requests and replies

What is sent to a registry and what comes back: a response, or the reason why none came.
-/
namespace Signet

inductive Method where
  | head
  | get
  | post
  | put
deriving DecidableEq, Repr

def Method.name : Method → Text
  | .head => "HEAD"
  | .get => "GET"
  | .post => "POST"
  | .put => "PUT"

/-- Methods that only read. -/
def Method.isSafe : Method → Bool
  | .head | .get => true
  | .post | .put => false

structure Credentials where
  username : Text
  password : Text
deriving DecidableEq, Repr

/-- A request. The digest that completes an upload is a parameter of its own, which is not
part of the address. -/
structure Request where
  method : Method
  url : Text
  headers : List (Text × Text)
  credentials : Option Credentials
  timeout : Int
  verifyTls : Bool
  digest : Option Text := none
  data : Option Bytes := none
deriving DecidableEq, Repr

/-- A response as a server sends it. -/
structure RawResponse where
  status : Int
  headers : List (Text × Text)
  body : Bytes
deriving DecidableEq, Repr

/-- The value of a header. Names are compared in lower case, and the last of several wins. -/
def RawResponse.header? (r : RawResponse) (name : Text) : Option Text :=
  (r.headers.reverse.find? fun p => p.1.lower = name.lower).map Prod.snd

/-- Why a body cannot be read as text. -/
inductive TextError where
  /-- The body has bytes that the charset does not decode. -/
  | undecodable (reason : Text)
  /-- The charset itself is of no use. -/
  | unusable (reason : Text)
deriving DecidableEq, Repr

def TextError.message : TextError → Text
  | .undecodable reason | .unusable reason => reason

/-- A body as text. -/
inductive BodyText where
  | legible (t : Text)
  | illegible (e : TextError)
deriving DecidableEq, Repr

/-- A response as it is received. The headers may name a charset, and whatever receives the
response reads the body with it as text if it can. Charsets are not looked into here: all that is
known of the text is that an empty body has an empty one. -/
structure Response extends RawResponse where
  text : BodyText
  text_of_nil : body = [] → text = .legible []
deriving DecidableEq, Repr

namespace RawResponse

/-- The response received with a text, which counts only if there is a body. -/
def read (r : RawResponse) (text : BodyText) : Response :=
  { r with
    text := if r.body = [] then .legible [] else text
    text_of_nil := fun h => if_pos h }

@[simp] theorem read_toRawResponse (r : RawResponse) (text : BodyText) :
    (r.read text).toRawResponse = r := rfl

/-- The response received with its body read as UTF-8, whatever its headers name. -/
def readUtf8 (r : RawResponse) : Response := r.read (.legible (Utf8.decodeLenient r.body))

@[simp] theorem readUtf8_toRawResponse (r : RawResponse) : r.readUtf8.toRawResponse = r := rfl

end RawResponse

/-- What comes back for a request. -/
inductive Reply where
  | received (r : Response)
  /-- No response came. -/
  | failure (reason : Text)
deriving DecidableEq, Repr

/-- The reply of a server that writes everything in UTF-8. -/
def Reply.response (r : RawResponse) : Reply := .received r.readUtf8

inductive Level where
  | info
  | warning
  | error
deriving DecidableEq, Repr

def Level.name : Level → Text
  | .info => "INFO"
  | .warning => "WARNING"
  | .error => "ERROR"

structure LogEntry where
  level : Level
  message : Text
deriving DecidableEq, Repr

end Signet
