/-
# Trellis.CommandLine — the commands of the program

The arguments name a command and what it works on. `CommandLine.parse` reads
them from left to right, a later setting over an earlier one, and stops at the
first that it does not know. `execute` runs a command on a graph document and
gives the JSON value to print.
-/
import Trellis.Document

namespace Trellis

set_option autoImplicit false

inductive Command where
  /-- Counters of the graph. -/
  | stats
  /-- The plan of a query. -/
  | parse
  /-- The rows of a query, after the rules have been run. -/
  | query
  /-- What running the rules makes. -/
  | derive
  deriving DecidableEq

/-- Why the arguments are refused. -/
inductive UsageError where
  | missingValue (flag : String)
  | unknownCommand (name : String)
  | invalidGenerations (raw : String)
  | unknownFlag (flag : String)
  | missingInput
  deriving DecidableEq

def UsageError.message : UsageError → String
  | .missingValue flag => flag ++ " requires a value"
  | .unknownCommand name => "unknown command " ++ name
  | .invalidGenerations raw => "--generations expects a number, got " ++ raw
  | .unknownFlag flag => "unknown flag " ++ flag
  | .missingInput => "--input is required for parse and query"

namespace Command

def ofName (name : String) : Except UsageError Command :=
  if name = "stats" then .ok .stats
  else if name = "parse" then .ok .parse
  else if name = "query" then .ok .query
  else if name = "derive" then .ok .derive
  else .error (.unknownCommand name)

def needsInput (c : Command) : Bool := c = .parse || c = .query

end Command

structure CommandLine where
  graph : Option String := none
  command : Command := .stats
  input : Option String := none
  generations : Option Nat := none
  deriving DecidableEq

namespace CommandLine

def help : String :=
  "Usage: patterngraph [--graph PATH] [--command stats|parse|query|derive] "
    ++ "[--input PATTERN] [--generations N]\n"

inductive Flag where
  | graph
  | command
  | input
  | generations
  deriving DecidableEq

def Flag.name : Flag → String
  | .graph => "--graph"
  | .command => "--command"
  | .input => "--input"
  | .generations => "--generations"

def Flag.ofName? (name : String) : Option Flag :=
  [.graph, .command, .input, .generations].find? (·.name = name)

def setFlag (c : CommandLine) (value : String) : Flag → Except UsageError CommandLine
  | .graph => .ok { c with graph := some value }
  | .command => do return { c with command := ← Command.ofName value }
  | .input => .ok { c with input := some value }
  | .generations =>
    match Text.Numeral.readUpTo? lastGeneration value.toList with
    | some n => .ok { c with generations := some n }
    | none => .error (.invalidGenerations value)

/-- An argument that is neither a known flag nor the value of one. -/
def setBare (c : CommandLine) (arg : String) : Except UsageError CommandLine :=
  if ['-', '-'].isPrefixOf arg.toList then .error (.unknownFlag arg)
  else do return { c with command := ← Command.ofName arg }

def readArgs (c : CommandLine) : List String → Except UsageError CommandLine
  | [] => .ok c
  | [arg] =>
    match Flag.ofName? arg with
    | some flag => .error (.missingValue flag.name)
    | none => c.setBare arg
  | arg :: value :: rest =>
    match Flag.ofName? arg with
    | some flag => do (← c.setFlag value flag).readArgs rest
    | none => do (← c.setBare arg).readArgs (value :: rest)

/-- Reads the arguments after the name of the program. -/
def parse (args : List String) : Except UsageError CommandLine := do
  let c ← readArgs {} args
  if c.command.needsInput && c.input.isNone then .error .missingInput
  return c

open Json (record ofNat)

/-- Runs a command on a document. -/
def run (c : CommandLine) (d : Document) : Except Error Json :=
  let generations := c.generations.getD d.maxGenerations
  let input := c.input.getD ""
  match c.command with
  | .stats => do
    let g ← d.buildGraph.mapError .input
    return g.stats.toJson
  | .parse => do
    let chain ← (Pattern.parseQuery input).mapError .pattern
    return (Plan.ofChain chain).toJson
  | .derive => do
    let g ← d.buildGraph.mapError .input
    let rules ← d.buildRules.mapError .pattern
    let (report, g) := g.deriveEdges rules Edge.derived generations
    return record [("report", (← report.mapError .input).toJson), ("stats", g.stats.toJson)]
  | .query => do
    let g ← d.buildGraph.mapError .input
    let rules ← d.buildRules.mapError .pattern
    let g ← if rules.isEmpty then pure g else
      match g.deriveEdges rules Edge.derived generations with
      | (.ok _, g) => pure g
      | (.error cause, _) => .error (.input cause)
    let rows ← (g.search input).mapError .pattern
    return record [("count", ofNat rows.length), ("rows", .array (rows.map (·.toJson)))]

/-- Runs a command on the document that the arguments name, or on an empty one
if they name none; `contents?` gives the text of a file that can be read. -/
def execute (c : CommandLine) (contents? : String → Option String) : Except Error Json := do
  let document ← match c.graph with
    | none => pure {}
    | some path => match contents? path with
      | some text => Document.parse text
      | none => .error .document
  c.run document

end CommandLine

end Trellis
