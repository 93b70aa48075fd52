import Cascade.Resource.FileTree
import Cascade.Text.Quoted
import Cascade.Text.Utf8

/-! Files are read as strict UTF-8, and every line end becomes a single line feed. -/

namespace Cascade.Resource

def unifyLineEnds : Text → Text
  | [] => []
  -- The two characters of one line end are taken together.
  | '\r' :: '\n' :: rest => '\n' :: unifyLineEnds rest
  | '\r' :: rest => '\n' :: unifyLineEnds rest
  | c :: rest => c :: unifyLineEnds rest

inductive Fault where
  | missing
  | directory
  | throughFile
  | undecodable (refusal : Text.Utf8.Refusal)
deriving DecidableEq, Repr

def Fault.message (path : Path) : Fault → Text
  | .missing => "[Errno 2] No such file or directory: ".toList ++ Text.quoted path.text
  | .directory => "[Errno 21] Is a directory: ".toList ++ Text.quoted path.text
  | .throughFile => "[Errno 20] Not a directory: ".toList ++ Text.quoted path.text
  | .undecodable refusal => refusal.message

def decodeFile (bytes : List UInt8) : Except Fault Text :=
  match Text.Utf8.decode bytes with
  | .ok t => .ok (unifyLineEnds t)
  | .error refusal => .error (.undecodable refusal)

def readFile (files : FileSystem) (path : Path) : Except Fault Text :=
  match files path with
  | .file bytes => decodeFile bytes
  | .directory => .error .directory
  | .missing => .error .missing
  | .throughFile => .error .throughFile

end Cascade.Resource
