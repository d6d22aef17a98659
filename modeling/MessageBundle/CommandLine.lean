import MessageBundle.Command

/-!
# The command line

The arguments name one of two commands and its options. An option has a long
name, behind two hyphens, and perhaps a short one, behind one; several short
options may share a hyphen. A value follows its option as the next argument, or
in the same one, behind an equals sign or right behind a short name. Two hyphens
alone end the options. Arguments are taken from left to right, and the first that
cannot be taken decides the answer.

## Main definitions

* `Flag`, `Scope` — the options, and where they may stand
* `UsageFault` — what can be wrong with the arguments
* `Reply`, `parse` — what the arguments ask for
* `run` — the arguments carried out
-/

namespace MessageBundle.CommandLine

/-- The options. -/
inductive Flag
  | verbose
  | help
  | version
  | manifest
  | output
  | implSuffix
  | lenient
  deriving DecidableEq, Repr

/-- The places where options may stand: before a command and behind one. -/
inductive Scope
  | top
  | generate
  | check
  deriving DecidableEq, Repr

namespace Flag

/-- The long name of an option. -/
def long : Flag → String
  | verbose => "verbose"
  | help => "help"
  | version => "version"
  | manifest => "manifest"
  | output => "output"
  | implSuffix => "impl-suffix"
  | lenient => "lenient"

/-- The short name of an option. -/
def short? : Flag → Option Char
  | verbose => some 'v'
  | help => some 'h'
  | version => some 'V'
  | manifest => some 'm'
  | output => some 'o'
  | implSuffix | lenient => none

/-- The option has a value. -/
def takesValue : Flag → Bool
  | manifest | output | implSuffix => true
  | verbose | help | version | lenient => false

/-- The option as messages name it. -/
def display (f : Flag) : String :=
  "--" ++ f.long ++
    match f with
    | manifest => " <MANIFEST>"
    | output => " <OUTPUT>"
    | implSuffix => " <IMPL_SUFFIX>"
    | verbose => "..."
    | help | version | lenient => ""

/-- What an option is for. -/
def about : Flag → String
  | verbose => "Increase log verbosity (-v info, -vv debug); RUST_LOG overrides"
  | help => "Print help"
  | version => "Print version"
  | manifest => "Path to the declaration manifest (default: ./logbundle.toml)"
  | output => "Output directory for generated sources"
  | implSuffix => "Override the implementation class suffix"
  | lenient => "Only reject methods carrying all three annotation kinds"

/-- The option with its short name, as help lists it. -/
def listing (f : Flag) : String :=
  match f.short? with
  | some c => String.ofList ['-', c, ',', ' '] ++ f.display
  | none => "    " ++ f.display

end Flag

namespace Scope

/-- The options that may stand in a scope, as help lists them. -/
def flags : Scope → List Flag
  | top => [.verbose, .help, .version]
  | generate => [.manifest, .verbose, .output, .implSuffix, .lenient, .help]
  | check => [.manifest, .verbose, .help]

/-- The command that a word names. -/
def command? : String → Option Scope
  | "generate" => some generate
  | "check" => some check
  | _ => none

/-- What a command is for. -/
def about : Scope → String
  | top => "Compiler for log message bundles"
  | generate => "Generate implementation classes for every bundle in a manifest"
  | check => "Validate a manifest and report what would be generated"

/-- How a command is called. -/
def usage : Scope → String
  | top => "Usage: logbundle [OPTIONS] <COMMAND>"
  | generate => "Usage: logbundle generate [OPTIONS] --output <OUTPUT>"
  | check => "Usage: logbundle check [OPTIONS]"

end Scope

/-- What help is asked for: a scope, or the word that asks for help itself. -/
inductive Topic
  | scope (scope : Scope)
  | help
  deriving DecidableEq, Repr

/-- A table of two columns, one line for each of its rows. -/
def columns (rows : List (String × String)) : String :=
  let width := (rows.map fun row => row.1.length).foldl max 0
  String.join
    (rows.map fun row =>
      let first := String.ofList (row.1.toList.rightpad width ' ')
      s!"  {first}  {row.2}\n")

/-- The commands, with what they are for. -/
def commandRows : List (String × String) :=
  [("generate", Scope.generate.about), ("check", Scope.check.about),
    ("help", "Print this message or the help of the given subcommand(s)")]

/-- What is told about a topic. -/
def Topic.text : Topic → String
  | scope s =>
    let commands := if s = .top then s!"Commands:\n{columns commandRows}\n" else ""
    let options := columns (s.flags.map fun flag => (flag.listing, flag.about))
    s!"{s.about}\n\n{s.usage}\n\n{commands}Options:\n{options}"
  | help => s!"Print this message or the help of the given subcommand(s)\n\n" ++
      s!"Usage: logbundle help [COMMAND]\n\nCommands:\n{columns commandRows}"

/-- What can be wrong with the arguments. -/
inductive UsageFault
  /-- There are none. -/
  | noArguments
  | missingCommand
  | unknownCommand (word : String)
  | unexpectedArgument (argument : String)
  | missingValue (flag : Flag)
  | repeated (flag : Flag)
  | unexpectedValue (value : String) (flag : Flag)
  /-- The option `--output` is missing. -/
  | missingOutput
  deriving DecidableEq, Repr

/-- The wording of a fault. -/
def UsageFault.message : UsageFault → String
  | noArguments => (Topic.scope .top).text
  | missingCommand => "error: 'logbundle' requires a subcommand but one was not provided\n"
  | unknownCommand word => s!"error: unrecognized subcommand '{word}'\n"
  | unexpectedArgument argument => s!"error: unexpected argument '{argument}' found\n"
  | missingValue flag =>
    s!"error: a value is required for '{flag.display}' but none was supplied\n"
  | repeated flag => s!"error: the argument '{flag.display}' cannot be used multiple times\n"
  | unexpectedValue value flag =>
    s!"error: unexpected value '{value}' for '{flag.display}' found; no more were expected\n"
  | missingOutput =>
    s!"error: the following required arguments were not provided:\n  {Flag.output.display}\n"

/-- A command with its options. -/
inductive Request
  | check (path : String)
  | generate (options : GenerateOptions)
  deriving DecidableEq, Repr

/-- What the arguments ask for. -/
inductive Reply
  | request (verbosity : Nat) (request : Request)
  | help (topic : Topic)
  | version
  | fault (fault : UsageFault)
  deriving DecidableEq, Repr

/-- Options read so far. An option whose value is due, or was just read, is
pending; it counts only when the next option or the end of the arguments comes. -/
structure Progress where
  verbosity : Nat := 0
  values : List (Flag × String) := []
  isLenient : Bool := false
  pending : Option (Flag × Option String) := none
  /-- The options have ended. -/
  isTrailing : Bool := false
  deriving DecidableEq, Repr

namespace Progress

/-- The value of an option. -/
def value? (p : Progress) (flag : Flag) : Option String := p.values.lookup flag

/-- An option with its value, which may be given once. -/
def store (p : Progress) (flag : Flag) (value : String) : Except Reply Progress :=
  match p.value? flag with
  | some _ => .error (.fault (.repeated flag))
  | none => .ok { p with values := (flag, value) :: p.values, pending := none }

/-- The pending option counted. -/
def settle (p : Progress) : Except Reply Progress :=
  match p.pending with
  | none => .ok p
  | some (flag, none) => .error (.fault (.missingValue flag))
  | some (flag, some value) => p.store flag value

/-- An option without a value taken. -/
def raise (scope : Scope) (p : Progress) (flag : Flag) : Except Reply Progress := do
  let p ← p.settle
  match flag with
  | .verbose => return { p with verbosity := p.verbosity + 1 }
  | .help => throw (.help (.scope scope))
  | .version => throw .version
  | .lenient =>
    if p.isLenient then throw (.fault (.repeated .lenient))
    return { p with isLenient := true }
  | .manifest | .output | .implSuffix => return p

/-- An option with a value taken; the value may be in the same argument. -/
def take (p : Progress) (flag : Flag) (attached : Option String) : Except Reply Progress := do
  let p ← p.settle
  match attached with
  | some value => p.store flag value
  | none => return { p with pending := some (flag, none) }

/-- The parts of a long option around its first equals sign. -/
def cutAtEquals (cs : List Char) : String × Option String :=
  let name := cs.takeWhile (· ≠ '=')
  match cs.drop name.length with
  | [] => (String.ofList name, none)
  | _ :: value => (String.ofList name, some (String.ofList value))

/-- A long option, without its hyphens. -/
def stepLong (scope : Scope) (p : Progress) (cs : List Char) : Except Reply Progress :=
  let (name, attached) := cutAtEquals cs
  match scope.flags.find? fun flag => flag.long == name with
  | none => .error (.fault (.unexpectedArgument ("--" ++ name)))
  | some flag =>
    if flag.takesValue then p.take flag attached
    else
      match attached with
      | some value => .error (.fault (.unexpectedValue value flag))
      | none => p.raise scope flag

/-- The value that shares an argument with a short option. -/
def attachedToShort : List Char → Option String
  | [] => none
  | '=' :: value => some (String.ofList value)
  | value => some (String.ofList value)

/-- Short options that share a hyphen. -/
def stepShort (scope : Scope) : List Char → Progress → Except Reply Progress
  | [], p => .ok p
  | c :: rest, p =>
    match scope.flags.find? fun flag => flag.short? == some c with
    | none => .error (.fault (.unexpectedArgument (String.ofList ['-', c])))
    | some flag =>
      if flag.takesValue then p.take flag (attachedToShort rest)
      else do
        let p ← p.raise scope flag
        stepShort scope rest p

/-- An argument that is no option and no value. -/
def stray (scope : Scope) (p : Progress) (argument : String) : Reply :=
  match scope with
  | .top =>
    let isCommand := (Scope.command? argument).isSome || argument == "help"
    if p.isTrailing && isCommand then .fault (.unexpectedArgument argument)
    else .fault (.unknownCommand argument)
  | .generate | .check => .fault (.unexpectedArgument argument)

/-- One more argument that names no command. -/
def step (scope : Scope) (p : Progress) (argument : String) : Except Reply Progress :=
  if p.isTrailing then .error (p.stray scope argument)
  else
    match argument.toList with
    | ['-', '-'] => .ok { p with isTrailing := true }
    | '-' :: '-' :: rest => p.stepLong scope rest
    | '-' :: c :: rest => stepShort scope (c :: rest) p
    | _ =>
      match p.pending with
      | some (flag, none) => .ok { p with pending := some (flag, some argument) }
      | _ => .error (p.stray scope argument)

end Progress

/-- The arguments behind a command. -/
def readOptions (scope : Scope) : List String → Progress → Except Reply Progress
  | [], p => p.settle
  | argument :: rest, p => do
    let p ← p.step scope argument
    readOptions scope rest p

/-- The request of a command with its options. -/
def Progress.request (scope : Scope) (p : Progress) : Except UsageFault Request :=
  let path := (p.value? .manifest).getD defaultManifest
  match scope, p.value? .output with
  | .check, _ => .ok (.check path)
  | .top, _ => .error .missingCommand
  | .generate, none => .error .missingOutput
  | .generate, some output =>
    .ok (.generate
      { path, output, overrides := { implSuffix := p.value? .implSuffix, lenient := p.isLenient } })

/-- What a command with the arguments behind it asks for; options before the
command add to the verbosity. -/
def readCommand (scope : Scope) (arguments : List String) (verbosity : Nat) : Reply :=
  match readOptions scope arguments {} with
  | .error reply => reply
  | .ok p =>
    match p.request scope with
    | .error fault => .fault fault
    | .ok request => .request (verbosity + p.verbosity) request

/-- What help is asked for by the words behind `help`. -/
def readTopic : List String → Reply
  | [] => .help (.scope .top)
  | word :: rest =>
    match Scope.command? word, rest with
    | some scope, [] => .help (.scope scope)
    | some _, other :: _ => .fault (.unknownCommand other)
    | none, [] => if word == "help" then .help .help else .fault (.unknownCommand word)
    | none, other :: _ => .fault (.unknownCommand (if word == "help" then other else word))

/-- The arguments before a command and from there on. -/
def readTop : List String → Progress → Reply
  | [], p =>
    if p.verbosity = 0 then .fault .noArguments else .fault .missingCommand
  | argument :: rest, p =>
    match Scope.command? argument, p.isTrailing with
    | some scope, false => readCommand scope rest p.verbosity
    | _, _ =>
      if argument == "help" && !p.isTrailing then readTopic rest
      else
        match p.step .top argument with
        | .error reply => reply
        | .ok p => readTop rest p

/-- What the arguments ask for. -/
def parse (arguments : List String) : Reply := readTop arguments {}

/-- A request carried out. -/
def Request.run {m : Type → Type} [Monad m] (access : FileAccess m) : Request → m Outcome
  | .check path => runCheck access path
  | .generate options => runGenerate access options

/-- The arguments carried out. -/
def run {m : Type → Type} [Monad m] (access : FileAccess m) (arguments : List String) :
    m Outcome :=
  match parse arguments with
  | .request _ request => request.run access
  | .help topic => pure { exitCode := 0, stdout := topic.text }
  | .version => pure { exitCode := 0, stdout := "logbundle 0.3.0\n" }
  | .fault fault => pure { exitCode := 2, stdout := "", stderr := fault.message }

end MessageBundle.CommandLine
