import Cascade.Record
import Cascade.Resource.Source

/-! Each setting has a default, and the environment may set any of them. -/

namespace Cascade

/-- What the environment can set. The platform is not checked before it is used. -/
structure Settings where
  platform : Text
  directory : Text
  extension : Text
  level : Level
deriving DecidableEq, Repr

structure UnknownLevel where
  name : Text
deriving DecidableEq, Repr

def UnknownLevel.message (e : UnknownLevel) : Text :=
  "Unknown log level ".toList ++ Text.quoted e.name

abbrev Environment := List (Text × Text)

namespace Settings

def make (platform directory extension level : Option Text) : Except UnknownLevel Settings :=
  let name := level.getD Level.warning.name
  match Level.ofName? name with
  | some level =>
    .ok ⟨platform.getD Platform.deferred.name, directory.getD ['.'],
      extension.getD TextSource.defaultExtension, level⟩
  | none => .error ⟨name⟩

def ofEnvironment (environment : Environment) : Except UnknownLevel Settings :=
  make (environment.lookup "CSSDECL_PLATFORM".toList)
    (environment.lookup "CSSDECL_STYLESHEET_DIR".toList)
    (environment.lookup "CSSDECL_DEFAULT_EXTENSION".toList)
    ((environment.lookup "CSSDECL_LOG_LEVEL".toList).map Text.upper)

def shows (s : Settings) (r : Record) : Bool := s.level.severity ≤ r.level.severity

end Settings
end Cascade
