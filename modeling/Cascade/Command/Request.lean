import Cascade.Command.Failure
import Cascade.Text.Alphanumeric

/-! Faults are found from left to right: in the program's options, in the choice of a platform, in
the command's name, in the environment, and in what follows the name. -/

namespace Cascade.Command

inductive Job where
  | parse (declarations : Text)
  | resolve (stylesheet : Text) (classes : List Text) (raw : Bool)
  | inspect (stylesheet : Text)
deriving DecidableEq, Repr

inductive Request where
  | version
  | help (scope : Scope)
  | run (settings : Settings) (job : Job)
deriving DecidableEq, Repr

/-! ## 1. The options of the program -/

def programGrammar : Grammar where
  long := [("--platform".toList, .platform), ("--verbose".toList, .verbose),
    ("--version".toList, .version), ("--help".toList, .help)]
  short := [('v', .verbose)]
  interspersed := false

def ending? (scope : Scope) : Given → Option Request
  | .flag .version => some .version
  | .flag .help => some (.help scope)
  | _ => none

def lastPlatform? (gs : List Given) : Option Text :=
  -- The last one counts.
  gs.reverse.findSome? fun
    | .valued .platform value => some value
    | _ => none

def chosenPlatform (gs : List Given) : Except Failure (Option Platform) :=
  match lastPlatform? gs with
  | none => .ok none
  | some value =>
    match Platform.ofText? value with
    | some p => .ok (some p)
    | none => .error (.usage none (.platformChoice value))

def settingsFor (environment : Environment) (platform : Option Platform) (verbose : Bool) :
    Except Failure Settings :=
  match Settings.ofEnvironment environment with
  | .error e => .error (.usage none (.unknownLevel e))
  | .ok s =>
    .ok { s with
      platform := (platform.map Platform.name).getD s.platform
      level := if verbose then .debug else s.level }

/-! ## 2. The options and words of a command -/

namespace Subcommand

def grammar (c : Subcommand) : Grammar where
  long :=
    match c with
    | .resolve => [("--raw".toList, .raw), ("--help".toList, .help)]
    | _ => [("--help".toList, .help)]
  short := []
  interspersed := true

def missing (c : Subcommand) (placeholder : String) : Except Failure Job :=
  .error (.usage (some c) (.missingArgument placeholder.toList))

def extra (c : Subcommand) (first : Text) (rest : List Text) : Except Failure Job :=
  .error (.usage (some c) (.extraArguments first rest))

def job (c : Subcommand) (raw : Bool) (words : List Text) : Except Failure Job :=
  match c, words with
  | .parse, [] => c.missing "DECLARATIONS"
  | .parse, [declarations] => .ok (.parse declarations)
  | .parse, _ :: first :: rest => c.extra first rest
  | .resolve, [] => c.missing "STYLESHEET"
  | .resolve, [_] => c.missing "CLASSES..."
  | .resolve, stylesheet :: first :: rest => .ok (.resolve stylesheet (first :: rest) raw)
  | .inspect, [] => c.missing "STYLESHEET"
  | .inspect, [stylesheet] => .ok (.inspect stylesheet)
  | .inspect, _ :: first :: rest => c.extra first rest

def request (c : Subcommand) (settings : Settings) (arguments : List Text) :
    Except Failure Request :=
  match c.grammar.read arguments with
  | .error fault => .error (.ofOption (some c) fault)
  | .ok a =>
    match a.options.findSome? (ending? (some c)) with
    | some r => .ok r
    | none => (c.job (a.options.contains (.flag .raw)) a.words).map (.run settings)

end Subcommand

/-! ## 3. The whole command line -/

def looksLikeOption (name : Text) : Bool := name.head?.any fun c => !Text.isAlphanumeric c

def requestOfWords (environment : Environment) (platform : Option Platform) (verbose : Bool) :
    List Text → Except Failure Request
  | [] => .error (.usage none .missingCommand)
  | name :: arguments =>
    match Subcommand.ofName? name with
    | none =>
      -- What looks like an option is read as one again, which comes to a call without arguments.
      if looksLikeOption name then .ok (.help none)
      else .error (.usage none (.unknownCommand name))
    | some c =>
      -- The environment is read after the name of the command and before its options.
      match settingsFor environment platform verbose with
      | .error f => .error f
      | .ok settings => c.request settings arguments

/-- The request of a command line; an empty one asks for the usage. -/
def request (environment : Environment) (arguments : List Text) : Except Failure Request :=
  if arguments.isEmpty then .ok (.help none)
  else
    -- Each step looks at the arguments only if the one before it found nothing wrong.
    match programGrammar.read arguments with
    | .error fault => .error (.ofOption none fault)
    | .ok a =>
      match a.options.findSome? (ending? none) with
      | some r => .ok r
      | none =>
        match chosenPlatform a.options with
        | .error f => .error f
        | .ok platform =>
          requestOfWords environment platform (a.options.contains (.flag .verbose)) a.words

end Cascade.Command
