import NocRouting.CommandLine
import NocRouting.Description
import NocRouting.Itinerary
import NocRouting.ProblemFile
import NocRouting.Route
import NocRouting.Steps

/-!
# The command

The command routes the problem in a file and shows the itinerary of every flow.  `Command.run` is
everything it does, given the characters that its output has, the files there are and an engine for
each context; how it ends is an `Ending`, from which the exit code and what is written follow.

* Code 0: every flow has a route, or the user asked for information only.
* Code 1: there is no routing.
* Code 2: the command line or the problem is at fault.
-/

namespace NocRouting

namespace Command

def name : String := "nocsat-route"

def version : String := "0.1.0"

def usage : String :=
  "usage: " ++ name ++ " [-h] [--version] [--resolution RESOLUTION] [--seed SEED] " ++
    "[--time-limit TIME_LIMIT] [--workers WORKERS] " ++
    "[--turn-model \x7bnegative-first,none,north-last,west-first,xy\x7d] " ++
    "[--minimize-bandwidth] [--verbose] problem\n"

/-- Why a problem is not routed. -/
inductive Failure where
  /-- The file cannot be read. -/
  | file (cause : FileFault)
  /-- The problem is at fault. -/
  | problem (cause : Fault)

def Failure.message : Failure → Text
  | .file cause => cause.message
  | .problem cause => cause.message

/-- A fault that is reported to the user: the problem contradicts itself, a figure is refused, or
a value is of the wrong sort. -/
def isReported : Fault → Bool
  | .configuration _ => true
  | .refused _ => true
  | .mismatch => true
  | .mixedRows => true
  | _ => false

/-- How the command ends. -/
inductive Ending where
  /-- It shows information. -/
  | informed (text : Text)
  /-- The command line has no meaning. -/
  | misused (cause : CommandLine.Misuse)
  /-- The problem is not routed. -/
  | failed (cause : Failure)
  /-- There is no routing. -/
  | unrouted (status : Status)
  /-- Every flow has a route. -/
  | routed (lines : List Text)
  /-- It breaks off after some lines, because of a fault that it does not report. -/
  | aborted (lines : List Text) (cause : Fault)

def Ending.code : Ending → Nat
  | .informed _ => 0
  | .misused _ => 2
  | .failed _ => 2
  | .unrouted _ => 1
  | .routed _ => 0
  | .aborted _ _ => 1

/-- A complaint. -/
def complaint (message : Text) : Text :=
  name ++ ": error: " ++ message ++ "\n"

def Ending.output : Ending → Text
  | .informed text => text
  | .routed lines => lines.flatMap (· ++ "\n")
  | .aborted lines _ => lines.flatMap (· ++ "\n")
  | _ => []

def Ending.errors : Ending → Text
  | .misused cause => complaint cause.message
  | .failed cause => complaint cause.message
  | .unrouted status => complaint ("no routing found (" ++ status.name ++ ")")
  | .aborted _ cause => complaint cause.message
  | _ => []

/-- A problem that is to be routed. -/
structure Job where
  description : Description
  turnModel : TurnModel
  options : RouteOptions

/-- What the command does. -/
structure Run where
  /-- The detail in which progress is shown, if it is shown. -/
  logLevel : Option LogLevel
  notes : List LogEntry
  job : Option Job
  ending : Ending

/-- The choices that a command line makes for a run. -/
def optionsOf (c : CommandLine) : RouteOptions where
  resolution := c.resolution
  minimizesBandwidth := c.minimizesBandwidth
  search := { timeLimit := c.timeLimit, seed := c.seed, workers := c.workers }

/-- The detail that a command line asks for. -/
def logLevelOf (c : CommandLine) : Option LogLevel :=
  match c.verbosity with
  | 0 => none
  | 1 => some .info
  | _ => some .debug

/-- The ending that a fault leads to, before anything is shown. -/
def endingOf (f : Fault) : Ending :=
  if isReported f then .failed (.problem f) else .aborted [] f

/-- Write a line to an output.  Nothing of it is written if it has a code point that the output has
no form for. -/
def writeLine (charset : Charset) (line : Text) : Steps (List Text) Unit :=
  match line.find? fun p => !charset p with
  | none => modify (· ++ [line])
  | some p => throw (.refused (.unencodable p))

/-- Show the routes of flows, each by a line that is written before the next one is made. -/
def showRoutes (charset : Charset) (c : Context) (r : RoutingResult) : Steps (List Text) Unit :=
  forM (c.flows.zip r.routes) fun (f, links) => do
    writeLine charset (← itineraryLine c.topology c.placement f (.list (links.map .int)))

/-- The notes on a job and its ending, given an engine for each context and resolution.  Nothing
that goes wrong while routes are shown is reported. -/
def route (charset : Charset) (engines : Context → Value → Engine RoutingVar) (j : Job) :
    List LogEntry × Ending :=
  match j.description.context j.turnModel with
  | .error f => ([], endingOf f)
  | .ok c =>
    let run := NocRouting.route (engines c j.options.resolution) c j.options
    let ending :=
      match run.outcome with
      | .error f => endingOf f
      | .ok r =>
        if r.status.isFeasible then
          match showRoutes charset c r [] with
          | .error f lines => .aborted lines f
          | .ok _ lines => .routed lines
        else .unrouted r.status
    (c.topology.realisedNote :: run.notes, ending)

/-- The ending for a file that cannot be read. -/
def endingOfFile (cause : FileFault) : Ending :=
  match cause with
  | .format ⟨.depth isList, _, _, _⟩ => .aborted [] (.tooDeep isList)
  | cause => .failed (.file cause)

/-- What the command does for a command line that names a problem. -/
def runLine (charset : Charset) (files : Text → FileContent)
    (engines : Context → Value → Engine RoutingVar) (c : CommandLine) : Run :=
  let level := logLevelOf c
  match (files c.problem).value c.problem with
  | .error cause => ⟨level, [], none, endingOfFile cause⟩
  | .ok v =>
    match Description.ofValue v with
    | .error f => ⟨level, [], none, endingOf f⟩
    | .ok d =>
      match c.turnModel with
      | none => ⟨level, [], none, endingOf .mismatch⟩
      | some m =>
        let job : Job := ⟨d, m, optionsOf c⟩
        let (notes, ending) := route charset engines job
        ⟨level, notes, some job, ending⟩

def run (charset : Charset) (files : Text → FileContent)
    (engines : Context → Value → Engine RoutingVar) (arguments : List Text) : Run :=
  match CommandLine.parse arguments with
  | .error misuse => ⟨none, [], none, .misused misuse⟩
  | .ok .showHelp => ⟨none, [], none, .informed usage⟩
  | .ok .showVersion => ⟨none, [], none, .informed (name ++ " " ++ version ++ "\n")⟩
  | .ok (.run c) => runLine charset files engines c

end Command

end NocRouting
