import Cascade.Property
import Cascade.Resource.Reading

/-! What reading reports besides its result.  Nothing is fatal: a record says what was dropped,
ignored or not found. -/

namespace Cascade

/-! ## 1. Levels -/

inductive Level where
  | critical
  | fatal
  | error
  | warn
  | warning
  | info
  | debug
  | notset
deriving DecidableEq, Repr

namespace Level

def all : List Level := [.critical, .fatal, .error, .warn, .warning, .info, .debug, .notset]

def name : Level → Text
  | .critical => "CRITICAL".toList
  | .fatal => "FATAL".toList
  | .error => "ERROR".toList
  | .warn => "WARN".toList
  | .warning => "WARNING".toList
  | .info => "INFO".toList
  | .debug => "DEBUG".toList
  | .notset => "NOTSET".toList

def severity : Level → Nat
  | .critical | .fatal => 50
  | .error => 40
  | .warn | .warning => 30
  | .info => 20
  | .debug => 10
  | .notset => 0

def ofName? (t : Text) : Option Level := all.find? (·.name = t)

theorem ofName?_name (level : Level) : ofName? level.name = some level := by
  cases level <;> rfl

end Level

/-! ## 2. Records -/

inductive Record where
  | malformedDeclaration (segment : Text)
  | unknownProperty (name : Text)
  | unreadableValue (property : Property) (value : Text)
  | malformedBlock (block : Text)
  | unknownClass (name : Text)
  | unreadableFile (path : Resource.Path) (fault : Resource.Fault)
  | resourceNotLoaded (name : Text)
  /-- A resource is loaded, after which the sheet has so many classes. -/
  | resourceLoaded (name : Text) (classes : Nat)
deriving DecidableEq, Repr

namespace Record

def level : Record → Level
  | .resourceNotLoaded _ => .warning
  | _ => .debug

def channel : Record → Text
  | .malformedDeclaration _ | .unknownProperty _ | .unreadableValue .. => "cssdecl.parser".toList
  | _ => "cssdecl.stylesheet".toList

def message : Record → Text
  | .malformedDeclaration segment =>
    "Dropping malformed declaration ".toList ++ Text.quoted segment
  | .unknownProperty name => "Ignoring unknown property ".toList ++ Text.quoted name
  | .unreadableValue property value =>
    "Could not parse ".toList ++ property.name ++ " value ".toList ++ Text.quoted value
  | .malformedBlock block => "Skipping malformed block ".toList ++ Text.quoted block
  | .unknownClass name => "Unknown style class ".toList ++ Text.quoted name
  | .unreadableFile path fault =>
    "Cannot read ".toList ++ path.text ++ ": ".toList ++ fault.message path
  | .resourceNotLoaded name => "StyleSheet: could not load ".toList ++ Text.quoted name
  | .resourceLoaded name classes =>
    "Loaded ".toList ++ Text.quoted name ++ " (".toList ++ Nat.toDigits 10 classes ++
      " classes defined)".toList

def line (r : Record) : Text :=
  r.level.name ++ ' ' :: r.channel ++ ": ".toList ++ r.message

end Record
end Cascade
