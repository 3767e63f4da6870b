import NocRouting.Model.Quantities
import NocRouting.Number.Reading
import NocRouting.TurnModel

/-!
# The command line

A command line names a problem file and may choose options.  Long options can be shortened as long
as no other begins the same way, and are given a value after `=` or as the next argument.  Short
options can be run together, and the last of a group can be followed by its value; nothing else can
follow an option without a value.  After `--` nothing is an option.  Negative numbers are no options
either.  The mark `--` as the value of an option takes back what was chosen, and leaves nothing in
its place.

* `CommandLine.parse` is the meaning of a list of arguments, or the reason why it has none.
-/

namespace NocRouting

/-- What a command line asks for. -/
structure CommandLine where
  problem : Text
  /-- The number of units that a fully loaded link carries. -/
  resolution : Value
  seed : Value
  /-- The time allowed, in seconds, if it is limited. -/
  timeLimit : Value
  workers : Value
  /-- The turn model, unless the choice was given up. -/
  turnModel : Option TurnModel
  /-- A second search is to look for less bandwidth. -/
  minimizesBandwidth : Bool
  /-- How often details were asked for. -/
  verbosity : Nat

namespace CommandLine

inductive Flag where
  | help
  | version
  | resolution
  | seed
  | timeLimit
  | workers
  | turnModel
  | minimizeBandwidth
  | verbose
  deriving DecidableEq, Repr

def Flag.all : List Flag :=
  [help, version, resolution, seed, timeLimit, workers, turnModel, minimizeBandwidth, verbose]

def Flag.spellings : Flag → List String
  | help => ["-h", "--help"]
  | version => ["--version", "-V"]
  | resolution => ["--resolution", "-r"]
  | seed => ["--seed", "-s"]
  | timeLimit => ["--time-limit", "-t"]
  | workers => ["--workers", "-w"]
  | turnModel => ["--turn-model"]
  | minimizeBandwidth => ["--minimize-bandwidth", "-b"]
  | verbose => ["--verbose", "-v"]

/-- The option takes a value. -/
def Flag.takesValue : Flag → Bool
  | resolution => true
  | seed => true
  | timeLimit => true
  | workers => true
  | turnModel => true
  | _ => false

def spelled : List (Text × Flag) :=
  Flag.all.flatMap fun f => f.spellings.map fun s => (.ofString s, f)

def flagOf? (spelling : Text) : Option Flag :=
  (spelled.find? (·.1 == spelling)).map (·.2)

/-- Why a command line has no meaning. -/
inductive Misuse where
  /-- A shortened option could be any of several. -/
  | ambiguous (argument : Text) (spellings : List Text)
  /-- An option lacks its value. -/
  | noValue (flag : Flag)
  /-- An option is given a value that it does not take. -/
  | unwantedValue (flag : Flag) (value : Text)
  /-- A value is no whole number. -/
  | notWhole (flag : Flag) (value : Text)
  /-- A value is no number. -/
  | notNumber (flag : Flag) (value : Text)
  /-- A value is none of those to choose from. -/
  | notChoice (flag : Flag) (value : Text) (choices : List Text)
  | noProblem
  /-- Some arguments have no meaning. -/
  | unrecognized (arguments : List Text)

def Flag.text (f : Flag) : String :=
  "argument " ++ "/".intercalate f.spellings ++ ": "

def Misuse.message : Misuse → Text
  | .ambiguous argument spellings =>
    "ambiguous option: " ++ argument ++ " could match " ++ Text.joined ", " spellings
  | .noValue flag => flag.text ++ "expected one argument"
  | .unwantedValue flag value => flag.text ++ "ignored explicit argument " ++ value.quoted
  | .notWhole flag value => flag.text ++ "invalid int value: " ++ value.quoted
  | .notNumber flag value => flag.text ++ "invalid float value: " ++ value.quoted
  | .notChoice flag value choices =>
    flag.text ++ "invalid choice: " ++ value.quoted ++ " (choose from " ++
      Text.joined ", " (choices.map (·.quoted)) ++ ")"
  | .noProblem => "the following arguments are required: problem"
  | .unrecognized arguments => "unrecognized arguments: " ++ Text.joined " " arguments

/-- What a command line comes to. -/
inductive Request where
  | run (c : CommandLine)
  | showVersion
  | showHelp

/-! ### Arguments one by one -/

/-- The mark after which nothing is an option. -/
def separatorMark : Text := "--"

/-- An argument by its looks. -/
inductive Argument where
  | plain (text : Text)
  /-- An option, and what is attached to its name in the argument.  Only a short option can begin a
  group. -/
  | flag (f : Flag) (isShort : Bool) (attached : Option Text)
  | unknown (text : Text)
  /-- The mark after which nothing is an option. -/
  | separator

/-- The argument as it was given, where it is no option. -/
def Argument.text : Argument → Text
  | .plain text => text
  | .unknown text => text
  | _ => "--"

/-- The parts of a text before and after its first equals sign; there may be no second part. -/
def splitEquals (text : Text) : Text × Option Text :=
  let isOther (c : CodePoint) : Bool := c != '='
  match text.dropWhile isOther with
  | _ :: value => (text.takeWhile isOther, some value)
  | [] => (text, none)

/-- An option that an argument may stand for. -/
structure ArgumentReading where
  spelling : Text
  flag : Flag
  isShort : Bool
  /-- What is attached to its name in the argument. -/
  attached : Option Text

/-- The options that an argument may stand for as a shortened or a grouped one. -/
def readings (argument : Text) : List ArgumentReading :=
  match argument with
  | .char '-' :: .char '-' :: _ =>
    let (name, value) := splitEquals argument
    spelled.filterMap fun (s, f) =>
      if name.isPrefixOf s then some ⟨s, f, false, value⟩ else none
  | .char '-' :: c :: rest =>
    spelled.filterMap fun (s, f) =>
      if s == [.char '-', c] then some ⟨s, f, true, some rest⟩ else none
  | _ => []

/-- The text is a negative number, with or without a point. -/
def isNegativeNumber (argument : Text) : Bool :=
  let isDigit (c : CodePoint) : Bool := c.char?.any fun c => (Text.digitValue? c).isSome
  let allDigits (cs : Text) : Bool := !cs.isEmpty && cs.all isDigit
  match argument with
  | .char '-' :: number =>
    let number := if number.getLast? == some '\n' then number.dropLast else number
    match number.dropWhile isDigit with
    | .char '.' :: places => allDigits places
    | _ => allDigits number
  | _ => false

/-- An argument that is spelled like an option, but is none as it stands. -/
def interpret (argument : Text) : Except Misuse Argument :=
  match readings argument with
  | [r] => .ok (.flag r.flag r.isShort r.attached)
  | [] =>
    if isNegativeNumber argument || argument.contains ' ' then .ok (.plain argument)
    else .ok (.unknown argument)
  | several => .error (.ambiguous argument (several.map (·.spelling)))

/-- An argument by its looks, when no separator has come before. -/
def classify (argument : Text) : Except Misuse Argument :=
  match argument with
  | .char '-' :: c :: _ =>
    let (name, value) := splitEquals argument
    match flagOf? argument, flagOf? name with
    | some f, _ => .ok (.flag f (c != '-') none)
    | none, some f => .ok (.flag f (c != '-') value)
    | none, none => interpret argument
  | _ => .ok (.plain argument)

def classifyAll : List Text → Except Misuse (List Argument)
  | [] => return []
  | text :: rest =>
    if text == separatorMark then return .separator :: rest.map .plain
    else do
      let a ← classify text
      return a :: (← classifyAll rest)

/-! ### Groups of short options -/

/-- The last option of a group. -/
inductive GroupEnd where
  | flag (f : Flag)
  | valued (f : Flag) (value : Text)

/-- The options in a group that begins with a given one, given the text that follows it: those
before the last, and the last. -/
def ungroup : Flag → Text → Except Misuse (List Flag × GroupEnd)
  | f, [] => .ok ([], .flag f)
  | f, c :: rest =>
    if f.takesValue then .ok ([], .valued f (c :: rest))
    else
      match flagOf? [.char '-', c] with
      | none => .error (.unwantedValue f (c :: rest))
      | some g => (ungroup g rest).map fun (before, last) => (f :: before, last)

/-- The options that an option stands for together with what is attached to it. -/
def expand (f : Flag) (isShort : Bool) :
    Option Text → Except Misuse (List Flag × GroupEnd)
  | none => .ok ([], .flag f)
  | some value =>
    if f.takesValue then .ok ([], .valued f value)
    else if isShort && !value.isEmpty then ungroup f value
    else .error (.unwantedValue f value)

/-! ### Meaning -/

/-- Reading a command line. -/
structure Parsing where
  /-- What it asks for so far. -/
  line : CommandLine
  /-- The problem file was named. -/
  isNamed : Bool
  /-- The arguments without a meaning so far. -/
  extras : List Text

def Parsing.start : Parsing where
  line := {
    problem := [], resolution := .int defaultResolution, seed := .int 0, timeLimit := .null
    workers := .int 1, turnModel := some .xy, minimizesBandwidth := false, verbosity := 0 }
  isNamed := false
  extras := []

/-- Name the problem file. -/
def Parsing.name (p : Parsing) (problem : Text) : Parsing :=
  { p with line := { p.line with problem := problem }, isNamed := true }

/-- Leave an argument without a meaning. -/
def Parsing.leave (p : Parsing) (a : Argument) : Parsing :=
  { p with extras := p.extras ++ [a.text] }

/-- Why reading ends before the last argument. -/
inductive Ending where
  /-- The command line is not to be read on. -/
  | request (r : Request)
  /-- The command line has no meaning. -/
  | misuse (m : Misuse)

/-- The turn models to choose from, in the order of their names. -/
def turnModelNames : List String :=
  (TurnModel.named.map (·.1)).mergeSort fun a b => a ≤ b

/-- A whole number as the value of an option. -/
def whole (f : Flag) (value : Text) : Except Ending Value :=
  match wholeNumber value with
  | .ok n => .ok (.int n)
  | .error _ => .error (.misuse (.notWhole f value))

/-- A double as the value of an option. -/
def double (f : Flag) (value : Text) : Except Ending Value :=
  match double? value with
  | some x => .ok (.number (.float x))
  | none => .error (.misuse (.notNumber f value))

/-- A turn model as the value of an option. -/
def turnModelNamed (f : Flag) (value : Text) : Except Ending TurnModel :=
  match TurnModel.ofName? value with
  | some m => .ok m
  | none => .error (.misuse (.notChoice f value (turnModelNames.map .ofString)))

/-- Follow an option that takes a value. -/
def choose (line : CommandLine) (f : Flag) (value : Text) : Except Ending CommandLine := do
  let orEmpty (read : Flag → Text → Except Ending Value) : Except Ending Value :=
    if value == separatorMark then .ok (.list []) else read f value
  match f with
  | .resolution => return { line with resolution := ← orEmpty whole }
  | .seed => return { line with seed := ← orEmpty whole }
  | .workers => return { line with workers := ← orEmpty whole }
  | .timeLimit => return { line with timeLimit := ← orEmpty double }
  | .turnModel =>
    if value == separatorMark then return { line with turnModel := none }
    else return { line with turnModel := some (← turnModelNamed f value) }
  | _ => return line

/-- Follow an option that takes no value. -/
def follow (line : CommandLine) (f : Flag) : Except Ending CommandLine :=
  match f with
  | .help => throw (.request .showHelp)
  | .version => throw (.request .showVersion)
  | .minimizeBandwidth => return { line with minimizesBandwidth := true }
  | .verbose => return { line with verbosity := line.verbosity + 1 }
  | _ => return line

/-- Read arguments one after the other. -/
def read : List Argument → Parsing → Except Ending Parsing
  | [], p => return p
  | .plain text :: rest, p =>
    if p.isNamed then read rest (p.leave (.plain text))
    else
      match rest with
      | .separator :: rest => read rest (p.name text)
      | rest => read rest (p.name text)
  | .separator :: rest, p =>
    if p.isNamed then read rest (p.leave .separator)
    else
      match rest with
      | .plain text :: rest => read rest (p.name text)
      | rest => read rest (p.leave .separator)
  | .unknown text :: rest, p => read rest (p.leave (.unknown text))
  | .flag f isShort attached :: rest, p => do
    match expand f isShort attached with
    | .error m => throw (.misuse m)
    | .ok (before, .valued g value) =>
      let line ← before.foldlM follow p.line
      read rest { p with line := ← choose line g value }
    | .ok (before, .flag g) =>
      if g.takesValue then
        match rest with
        | .plain value :: rest =>
          let line ← before.foldlM follow p.line
          read rest { p with line := ← choose line g value }
        | _ => throw (.misuse (.noValue g))
      else
        let line ← before.foldlM follow p.line
        read rest { p with line := ← follow line g }

/-- The meaning of a command line. -/
def parse (arguments : List Text) : Except Misuse Request := do
  match read (← classifyAll arguments) .start with
  | .error (.request r) => return r
  | .error (.misuse m) => throw m
  | .ok p =>
    if !p.isNamed then throw .noProblem
    if !p.extras.isEmpty then throw (.unrecognized p.extras)
    return .run p.line

end CommandLine

end NocRouting
