import ReportSearch.Json.Printer
import ReportSearch.Web.Address
import ReportSearch.Web.Base64

/-!
# Calls

A call is a request to a server elsewhere. What comes back is given, so that a call is a value: the
server does not exist, does not answer, or answers with a status and a body.
-/

set_option autoImplicit false

namespace ReportSearch

structure WebCall where
  method : String
  address : String
  /-- The user's name and password. -/
  user : Option (String × String) := none
  body : Option Json := none
  /-- Whether the call carries an identifier of its own. -/
  isTraced : Bool := false

/-- What comes back from a call. -/
inductive WebReply where
  | unreachable
  /-- No answer within the time of the call. -/
  | silent
  | answered (status : Nat) (body : String)
  deriving DecidableEq, Repr

namespace WebCall

/-- The first line of the request; a call whose address makes no sense is never sent. -/
def line? (call : WebCall) : Option String :=
  (Address.ofText? call.address).map fun address =>
    call.method ++ " " ++ address.target ++ " HTTP/1.1"

def contentType? (call : WebCall) : Option String := call.body.map fun _ => "application/json"

def authorization? (call : WebCall) : Option String :=
  call.user.map fun (name, password) =>
    "Basic " ++ String.ofList
      (Base64.encode ((name ++ ":" ++ password).toList.flatMap String.utf8EncodeChar))

end WebCall

namespace WebReply

/-- Some answers have no body, whatever follows their head. -/
def hasBody (status : Nat) : Bool := 200 ≤ status && status ≠ 204 && status ≠ 304

def isSuccess (status : Nat) : Bool := 200 ≤ status && status < 300

/-- What a server answers that sends the status and then the text. -/
def ofText (status : Nat) (text : String) : WebReply :=
  answered status (if hasBody status then text else "")

end WebReply

end ReportSearch
