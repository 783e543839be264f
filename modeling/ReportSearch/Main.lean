import ReportSearch.Catalog.Registry
import ReportSearch.Command.Run
import ReportSearch.Command.Usage
import Std.Time.DateTime.Timestamp

/-!
# The command line

Compiling a search is done here and now. The other commands are for a server: the call is written to
standard error, and the body of the answer is read from standard input, so that the program works
with any tool that carries calls.
-/

set_option autoImplicit false

namespace ReportSearch.Program

def now : IO Instant := do
  let stamp ← Std.Time.Timestamp.now
  let nanos : Int := stamp.toNanosecondsSinceUnixEpoch.val
  return ⟨nanos / 1000000000, (nanos % 1000000000).toNat⟩

def readFile? (path : String) : IO (Option String) := do
  try return some (← IO.FS.readFile path)
  catch _ => return none

def fail (message : String) : IO UInt32 := do
  IO.eprintln ("Error: " ++ message)
  return 1

def sourceOf : Option String → CatalogSource
  | some path => .file path
  | none => .bundled

def runCompile (query : QueryArguments) (mapping : Option String) : IO UInt32 := do
  let text ← match mapping with
    | some path => readFile? path
    | none => pure none
  match Registry.load (fun _ => text) (sourceOf mapping) with
  | .error fault => fail ("failed to load schema: " ++ fault.message)
  | .ok registry =>
    match query.request with
    | .error fault => fail fault.message
    | .ok request =>
      IO.print (Command.shown (request.compiled registry.current (← now)))
      return 0

def runCall (call : WebCall) : IO UInt32 := do
  IO.eprintln (call.method ++ " " ++ call.address)
  match call.body with
  | some body => IO.eprintln body.compact
  | none => pure ()
  let body ← (← IO.getStdin).readToEnd
  match Command.shownReply (.answered 200 body) with
  | some text =>
    IO.print text
    return 0
  | none => fail "error decoding response body"

def run (invocation : Invocation) : IO UInt32 := do
  match invocation.command with
  | .compile query mapping => runCompile query mapping
  | command =>
    match command.call? invocation.endpoint with
    | .error fault => fail fault.message
    | .ok none => return 0
    | .ok (some call) => runCall call

end ReportSearch.Program

open ReportSearch in
def main (args : List String) : IO UInt32 := do
  match Invocation.ofWords args with
  | .ok invocation => Program.run invocation
  | .error fault =>
    if fault.isHelp then
      IO.print fault.message
      return 0
    else
      IO.eprint fault.message
      return 2
