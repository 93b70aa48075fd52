import Cascade.Command.Course
import Cascade.Command.Request
import Cascade.Command.Terminal
import Cascade.Json.Printer
import Cascade.Sheet.Reading
import Cascade.Style.Json

/-!
# Running the command

The order of the steps of a job is the order of what is seen.  The answer goes to the standard
output; records, warnings and the failure go to the error stream.
-/

namespace Cascade.Command

/-! ## 1. Steps of the jobs -/

def providerFor (c : Subcommand) (settings : Settings) : Course Provider :=
  match Provider.ofPlatform settings.platform with
  | .ok provider => pure provider
  | .error e => .fail (.usage (some c) (.unknownPlatform e))

def printStyle (provider : Provider) (t : Text) : Course Unit := do
  .report (Style.recordsOfText provider t)
  .printLine (Style.ofText provider t).toJson.print

def readSheet (files : Resource.FileSystem) (settings : Settings) (stylesheet : Text) :
    Course Sheet :=
  -- A file at the path comes first; every other name is one below the stylesheet directory.
  match files (Resource.Path.ofText stylesheet) with
  | .file bytes =>
    match Resource.decodeFile bytes with
    | .ok t => do
      .report (Sheet.recordsOfText t)
      return Sheet.ofText t
    | .error fault =>
      .fail (.unreadable stylesheet (some (fault.message (Resource.Path.ofText stylesheet))))
  | _ =>
    match Sheet.empty.load stylesheet (.directory files settings.directory settings.extension) with
    | .ok (some sheet, records) => do
      .report records
      return sheet
    | .ok (none, records) => do
      .report records
      .fail (.unreadable stylesheet none)
    | .error e => .fail (.embeddedNul e)

/-- The warnings of the names that are no classes, one for each time that a name is given. -/
def missingClasses (sheet : Sheet) (stylesheet : Text) (classes : List Text) : List Event :=
  (classes.filter fun name => !sheet.contains name).map (.noClass · stylesheet)

-- A class is looked up by its own name, which loses one more point if it starts with one.
def shownText (sheet : Sheet) (name : Text) : Text := (sheet.css? name).getD []

def declarationLines (t : Text) : List Event :=
  (Declaration.listOfText t).map fun d => .line ("  ".toList ++ d.text)

def showClass (sheet : Sheet) (name : Text) : Course Unit := do
  .printLine []
  .printLine ('.' :: name)
  .report ((Segment.listOfText (shownText sheet name)).filterMap (·.record?))
  .emit (declarationLines (shownText sheet name))

/-! ## 2. Jobs -/

def Job.course (files : Resource.FileSystem) (settings : Settings) : Job → Course Unit
  | .parse declarations => do
    let provider ← providerFor .parse settings
    printStyle provider declarations
  | .resolve stylesheet classes raw => do
    let sheet ← readSheet files settings stylesheet
    .emit (missingClasses sheet stylesheet classes)
    .report (sheet.recordsOfNames classes)
    if raw then .printLine (sheet.resolve classes)
    else
      -- The platform is looked up only now, after the warnings.
      let provider ← providerFor .resolve settings
      printStyle provider (sheet.resolve classes)
  | .inspect stylesheet => do
    let sheet ← readSheet files settings stylesheet
    .printLine ("Classes: ".toList ++ Nat.toDigits 10 sheet.size)
    sheet.names.forM (showClass sheet)

/-! ## 3. What is printed -/

structure Outcome where
  status : Nat
  stdout : Text
  stderr : Text
deriving DecidableEq, Repr

def printed (line : Text) : Text := stripSequences line ++ ['\n']

namespace Event

def answer : Event → Text
  | .line t => printed t
  | _ => []

def diagnostic (settings : Settings) : Event → Text
  | .line _ => []
  | .record r => if settings.shows r then r.line ++ ['\n'] else []
  | .noClass name stylesheet =>
    printed ("Warning: no class ".toList ++ Text.quoted name ++ " in ".toList ++ stylesheet)

end Event

def Failure.text (f : Failure) : Text := f.report.flatMap printed

namespace Course
variable {α : Type}

def answer (c : Course α) : Text := c.events.flatMap Event.answer

def diagnostics (settings : Settings) (c : Course α) : Text :=
  c.events.flatMap (Event.diagnostic settings)

def outcome (settings : Settings) (c : Course Unit) : Outcome :=
  match c.ending with
  | .ok () => ⟨0, c.answer, c.diagnostics settings⟩
  | .error f => ⟨f.status, c.answer, c.diagnostics settings ++ f.text⟩

end Course

def versionLine : Text := programName ++ ", version 0.1.0".toList

def Request.outcome (files : Resource.FileSystem) : Request → Outcome
  | .version => ⟨0, printed versionLine, []⟩
  | .help scope => ⟨0, printed scope.usage, []⟩
  | .run settings job => (job.course files settings).outcome settings

def run (environment : Environment) (files : Resource.FileSystem) (arguments : List Text) :
    Outcome :=
  match request environment arguments with
  | .ok r => r.outcome files
  -- A wrong use is noticed before anything has been done.
  | .error f => ⟨f.status, [], f.text⟩

end Cascade.Command
