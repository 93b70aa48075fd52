import Cascade.Text.Basic

/-! The two lines that a text may bear, each of which a value turns on by naming it. -/

namespace Cascade

structure TextDecoration where
  underline : Bool
  strikethrough : Bool
deriving DecidableEq, Repr

def TextDecoration.ofText (t : Text) : TextDecoration :=
  ⟨Text.occursIn "underline".toList t, Text.occursIn "line-through".toList t⟩

end Cascade
