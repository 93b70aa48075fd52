import Cascade.Record

/-! A source supplies the text of a resource by name.  Names are texts, that is Unicode scalar
values; what a file system makes of lone surrogates is no matter of this library. -/

namespace Cascade

/-- A path with a NUL character is refused before any file is looked for. -/
inductive EmbeddedNul where
  | embeddedNul
deriving DecidableEq, Repr

def EmbeddedNul.message : EmbeddedNul → Text
  | .embeddedNul => "embedded null byte".toList

inductive TextSource where
  | mapping (texts : List (Text × Text)) (extension : Text)
  | directory (files : Resource.FileSystem) (root extension : Text)

namespace TextSource
open Resource

def defaultExtension : Text := "css".toList

-- A name that starts at a root is not looked for below the directory.
def pathOf (root extension name : Text) : Path :=
  (Path.ofText root).join (Path.ofText (withExtension extension name))

def read : TextSource → Text → Except EmbeddedNul (Option Text × List Record)
  | mapping texts extension, name => .ok (texts.lookup (withExtension extension name), [])
  | directory files root extension, name =>
    let path := pathOf root extension name
    if path.text.contains '\x00' then .error .embeddedNul
    else
      match readFile files path with
      | .ok t => .ok (some t, [])
      | .error fault => .ok (none, [.unreadableFile path fault])

end TextSource
end Cascade
