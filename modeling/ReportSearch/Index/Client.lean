import ReportSearch.Index.Reply
import ReportSearch.Index.Settings
import ReportSearch.Search.Body
import ReportSearch.Web.Call

/-!
# The search index as a backend

A search is one call to the index and a ping is one call to its server. Nothing is sent twice.
-/

set_option autoImplicit false

namespace ReportSearch.IndexSettings

/-- The address of the server, without slashes at its end. -/
def root (settings : IndexSettings) : String :=
  String.ofList (settings.url.toList.reverse.dropWhile (· = '/')).reverse

/-- Whose calls they are, if anybody's. Without a password it is empty. -/
def user (settings : IndexSettings) : Option (String × String) :=
  settings.username.map fun name => (name, settings.password.getD "")

def searchCall (settings : IndexSettings) (request : BackendRequest) : WebCall :=
  { method := "POST"
    address := settings.root ++ "/" ++ settings.index ++ "/_search"
    user := settings.user
    body := some request.body
    isTraced := true }

def pingCall (settings : IndexSettings) : WebCall :=
  { method := "GET", address := settings.root, user := settings.user }

/-- How long the client waits, in milliseconds. -/
def patience (settings : IndexSettings) : Nat := settings.timeout * 1000

/-- The status and the body of an answer, or why there is none. -/
def received (settings : IndexSettings) : WebReply → Except BackendFault (Nat × String)
  | .unreachable => .error (.transport "error sending request")
  | .silent => .error (.timeout settings.patience)
  | .answered status body => .ok (status, body)

def answerOf (settings : IndexSettings) (reply : WebReply) : Except BackendFault BackendAnswer := do
  let (status, body) ← settings.received reply
  if !WebReply.isSuccess status then throw (.status status body)
  match Source.decodeText? Source.decodeIndexReply body with
  | some reply => return reply.answer
  | none => throw (.undecodable "error decoding response body")

/-- Why a ping failed, if it did; the body of its answer does not matter. -/
def pingFault? (settings : IndexSettings) (reply : WebReply) : Option BackendFault :=
  match settings.received reply with
  | .error fault => some fault
  | .ok (status, _) => if WebReply.isSuccess status then none else some (.status status "")

end ReportSearch.IndexSettings
