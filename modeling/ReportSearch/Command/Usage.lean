import ReportSearch.Command.Arguments

/-!
# Usage

What the program says about a command line that it cannot follow.
-/

set_option autoImplicit false

namespace ReportSearch

/-- The commands and their arguments, one command a line. -/
def usage : String :=
  "Usage: report-search [--endpoint URL] COMMAND\n\n" ++
  "  search [QUERY]             run a search on the server\n" ++
  "  compile [QUERY] [-s FILE]  show what the backend would be asked\n" ++
  "  fields [FIELD]             list the fields, or show one (--facetable)\n" ++
  "  refresh-schema             make the server read its mapping again\n" ++
  "  health                     ask whether the server is well\n\n" ++
  "QUERY is made of -r FIELD:OPERATOR[:VALUE], -f FIELD[=SIZE], -c FIELD,\n" ++
  "-l LIMIT and -o OFFSET.\n"

namespace UsageFault

/-- Help that was asked for is no failure. -/
def isHelp : UsageFault → Bool
  | help => true
  | _ => false

def message : UsageFault → String
  | help => usage
  | helpForNothing => usage
  | unknownArgument => "error: unexpected argument\n\n" ++ usage
  | unknownCommand => "error: unrecognized command\n\n" ++ usage
  | missingCommand => "error: a command is required\n\n" ++ usage
  | conflict => "error: an argument was given more than once\n\n" ++ usage
  | badValue => "error: invalid value for an argument\n\n" ++ usage
  | missingValue => "error: a value is required for an argument\n\n" ++ usage
  | tooManyValues => "error: unexpected value for a flag\n\n" ++ usage

end UsageFault

end ReportSearch
