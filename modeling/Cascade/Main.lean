import Cascade.Command.Run

/-! The program: it gathers the environment and the files that its arguments may name. -/

namespace Cascade

def entryOnDisk (path : Resource.Path) : IO Resource.Entry := do
  try
    return .file (← IO.FS.readBinFile (String.ofList path.text)).toList
  catch
    | .inappropriateType _ _ details =>
      return if details = "Is a directory" then .directory else .throughFile
    | _ => return .missing

def environmentOfProcess : IO Environment := do
  let names := ["CSSDECL_PLATFORM", "CSSDECL_STYLESHEET_DIR", "CSSDECL_DEFAULT_EXTENSION",
    "CSSDECL_LOG_LEVEL"]
  let values ← names.mapM fun name => return (name, ← IO.getEnv name)
  return values.filterMap fun (name, value) => value.map fun v => (name.toList, v.toList)

def candidatePaths (environment : Environment) (argument : Text) : List Resource.Path :=
  match Settings.ofEnvironment environment with
  | .ok s =>
    [Resource.Path.ofText argument, TextSource.pathOf s.directory s.extension argument]
  | .error _ => []

end Cascade

open Cascade in
def main (arguments : List String) : IO UInt32 := do
  let words := arguments.map String.toList
  let environment ← environmentOfProcess
  let entries ← (words.flatMap (candidatePaths environment)).mapM fun path =>
    return (path, ← entryOnDisk path)
  let outcome := Command.run environment (fun path => (entries.lookup path).getD .missing) words
  IO.print (String.ofList outcome.stdout)
  IO.eprint (String.ofList outcome.stderr)
  return UInt32.ofNat outcome.status
