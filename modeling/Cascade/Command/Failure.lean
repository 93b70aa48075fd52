import Cascade.Color.Provider
import Cascade.Command.Arguments
import Cascade.Settings

/-! A wrong use ends with status 2, and a stylesheet that cannot be read ends with status 1. -/

namespace Cascade.Command

/-! ## 1. Commands -/

inductive Subcommand where
  | parse
  | resolve
  | inspect
deriving DecidableEq, Repr

namespace Subcommand

def all : List Subcommand := [.parse, .resolve, .inspect]

def name : Subcommand → Text
  | .parse => "parse".toList
  | .resolve => "resolve".toList
  | .inspect => "inspect".toList

def ofName? (t : Text) : Option Subcommand := all.find? (·.name = t)

theorem ofName?_name (c : Subcommand) : ofName? c.name = some c := by
  cases c <;> rfl

def placeholders : Subcommand → Text
  | .parse => "DECLARATIONS".toList
  | .resolve => "STYLESHEET CLASSES...".toList
  | .inspect => "STYLESHEET".toList

end Subcommand

def programName : Text := "cssdecl".toList

/-- The part of the command line that a fault is blamed on: the program or one of its commands. -/
abbrev Scope := Option Subcommand

namespace Scope

def path : Scope → Text
  | none => programName
  | some c => programName ++ ' ' :: c.name

def usage (s : Scope) : Text :=
  "Usage: ".toList ++ path s ++ " [OPTIONS] ".toList ++
    match s with
    | none => "COMMAND [ARGS]...".toList
    | some c => c.placeholders

end Scope

/-! ## 2. Faults -/

inductive UsageFault where
  | unknownOption (name : Text)
  | platformChoice (value : Text)
  | missingCommand
  | unknownCommand (name : Text)
  | unknownLevel (e : UnknownLevel)
  | unknownPlatform (e : UnknownPlatform)
  | missingArgument (placeholder : Text)
  | extraArguments (first : Text) (rest : List Text)
deriving DecidableEq, Repr

def UsageFault.message : UsageFault → Text
  | .unknownOption name => "No such option: ".toList ++ name
  | .platformChoice value =>
    "Invalid value for '--platform': ".toList ++ Text.quoted value ++ " is not one of ".toList ++
      List.intercalate ", ".toList (Platform.all.map fun p => Text.quoted p.name) ++ ['.']
  | .missingCommand => "Missing command.".toList
  | .unknownCommand name => "No such command ".toList ++ Text.quoted name ++ ['.']
  | .unknownLevel e => "CSSDECL_LOG_LEVEL: ".toList ++ e.message
  | .unknownPlatform e => e.message
  | .missingArgument placeholder => "Missing argument '".toList ++ placeholder ++ "'.".toList
  | .extraArguments first rest =>
    "Got unexpected extra argument".toList ++ (if rest.isEmpty then [] else ['s']) ++
      " (".toList ++ List.intercalate [' '] (first :: rest) ++ ")".toList

inductive Failure where
  | usage (scope : Scope) (fault : UsageFault)
  | missingValue (option : Text)
  | unwantedValue (option : Text)
  /-- A stylesheet is not found, or it is found and cannot be decoded. -/
  | unreadable (stylesheet : Text) (fault : Option Text)
  | embeddedNul (e : EmbeddedNul)
deriving DecidableEq, Repr

namespace Failure

def ofOption (scope : Scope) : OptionFault → Failure
  | .unknown name => .usage scope (.unknownOption name)
  | .missingValue name => .missingValue name
  | .unwantedValue name => .unwantedValue name

def status : Failure → Nat
  | .usage .. | .missingValue _ | .unwantedValue _ => 2
  | .unreadable .. | .embeddedNul _ => 1

def message : Failure → Text
  | .usage _ fault => fault.message
  | .missingValue option =>
    "Option ".toList ++ Text.quoted option ++ " requires an argument.".toList
  | .unwantedValue option =>
    "Option ".toList ++ Text.quoted option ++ " does not take a value.".toList
  | .unreadable stylesheet fault =>
    "Could not read stylesheet ".toList ++ Text.quoted stylesheet ++
      match fault with
      | some t => ": ".toList ++ t
      | none => []
  | .embeddedNul e => e.message

def preamble : Failure → Option Text
  -- Only a wrong use is followed by a hint at the help.
  | .usage scope _ =>
    some (scope.usage ++ "\nTry '".toList ++ scope.path ++ " --help' for help.\n".toList)
  | _ => none

def report (f : Failure) : List Text := f.preamble.toList ++ ["Error: ".toList ++ f.message]

end Failure
end Cascade.Command
