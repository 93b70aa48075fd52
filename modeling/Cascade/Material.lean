import Cascade.Text.Basic

/-! The blurred backgrounds, from the thinnest to the thickest, and the one of bars. -/

namespace Cascade

inductive Material where
  | ultraThin
  | thin
  | regular
  | thick
  | ultraThick
  | bar
deriving DecidableEq, Repr

namespace Material

def all : List Material := [.ultraThin, .thin, .regular, .thick, .ultraThick, .bar]

def name : Material → Text
  | .ultraThin => "ultra-thin".toList
  | .thin => "thin".toList
  | .regular => "regular".toList
  | .thick => "thick".toList
  | .ultraThick => "ultra-thick".toList
  | .bar => "bar".toList

/-- The values that stand for a material: its name followed by `material`, with hyphens or without,
and for bars the name alone. -/
def spellings : Material → List Text
  | .bar => [bar.name]
  | m => [m.name ++ "-material".toList, m.name.filter (· ≠ '-') ++ "material".toList]

def ofText? (t : Text) : Option Material := all.find? (·.spellings.contains t)

end Material
end Cascade
