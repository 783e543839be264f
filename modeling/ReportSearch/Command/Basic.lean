import ReportSearch.Command.Arguments
import ReportSearch.Command.Shorthand

/-!
# Commands

The commands of the program, and how a command line names one.
-/

set_option autoImplicit false

namespace ReportSearch

structure QueryArguments where
  rules : List String := []
  facets : List String := []
  columns : List String := []
  limit : Option Nat := none
  offset : Nat := 0
  deriving DecidableEq, Repr

inductive Command where
  | search (query : QueryArguments)
  /-- Shows what the backend would be asked, for the mapping of a file if one is given. -/
  | compile (query : QueryArguments) (mapping : Option String)
  | fields (name : Option String) (onlyFacetable : Bool)
  | refreshSchema
  | health
  deriving DecidableEq, Repr

/-- A command and the server that it is for. -/
structure Invocation where
  endpoint : String
  command : Command
  deriving DecidableEq, Repr

namespace QueryArguments

/-- The request of a search; of several faults the first rule's is told, then the first facet's. -/
def request (query : QueryArguments) : Except ShorthandFault SearchRequest := do
  let rules ← query.rules.mapM Rule.ofShorthand
  let facets ← query.facets.mapM FacetRequest.ofShorthand
  return { rules, facets, columns := query.columns, offset := query.offset, limit := query.limit }

def countFault? (value : String) : Option UsageFault :=
  if (Text.readNat64? value).isSome then none else some .badValue

def options : List ValueOption :=
  [{ name := "rule", letter := some 'r', isRepeated := true },
    { name := "facet", letter := some 'f', isRepeated := true },
    { name := "column", letter := some 'c', isRepeated := true },
    { name := "limit", letter := some 'l', fault? := countFault? },
    { name := "offset", letter := some 'o', fault? := countFault? }]

def ofArguments (arguments : Arguments) : QueryArguments :=
  { rules := arguments.valuesOf "rule"
    facets := arguments.valuesOf "facet"
    columns := arguments.valuesOf "column"
    limit := (arguments.valuesOf "limit").head?.bind Text.readNat64?
    offset := ((arguments.valuesOf "offset").head?.bind Text.readNat64?).getD 0 }

end QueryArguments

namespace Command

def names : List String := ["search", "compile", "fields", "refresh-schema", "health"]

def schemaFault? (value : String) : Option UsageFault :=
  if value.isEmpty then some .missingValue else none

def schemaOption : ValueOption :=
  { name := "schema", letter := some 's', fault? := schemaFault? }

/-- What may follow the name of a command. -/
def grammar : String → ArgumentGrammar
  | "search" => { options := QueryArguments.options }
  | "compile" => { options := QueryArguments.options ++ [schemaOption] }
  | "fields" => { flags := ["facetable"], wordCount := 1 }
  | _ => {}

def ofArguments (name : String) (arguments : Arguments) : Command :=
  match name with
  | "search" => search (.ofArguments arguments)
  | "compile" => compile (.ofArguments arguments) (arguments.valuesOf "schema").head?
  | "fields" => fields arguments.words.head? (arguments.flags.contains "facetable")
  | "refresh-schema" => refreshSchema
  | _ => health

end Command

namespace Invocation

def defaultEndpoint : String := "http://localhost:8080"

def endpointOption : ValueOption := { name := "endpoint", letter := some 'e' }

/-- What may stand before the name of a command. -/
def grammar : ArgumentGrammar :=
  { options := [endpointOption], commands := Command.names ++ ["help"] }

def helpFault : List String → UsageFault
  | [] => .help
  | [name] => if grammar.commands.contains name then .help else .unknownCommand
  | _ => .unknownCommand

def ofWords (words : List String) : Except UsageFault Invocation := do
  match ← Arguments.takeUntilCommand grammar {} words with
  | (arguments, none) =>
    let settled ← arguments.settle
    throw (if settled.values.isEmpty then .helpForNothing else .missingCommand)
  | (_, some ("help", rest)) => throw (helpFault rest)
  | (arguments, some (name, rest)) =>
    let own ← Arguments.ofWords (Command.grammar name) rest
    let settled ← arguments.settle
    return { endpoint := (settled.valuesOf "endpoint").head?.getD defaultEndpoint
             command := Command.ofArguments name own }

end Invocation

end ReportSearch
