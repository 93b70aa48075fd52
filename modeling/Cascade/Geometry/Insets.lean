import Cascade.Geometry.Sides
import Cascade.Length

/-! The insets of the edges of a rectangle, of which the left one is the leading one. -/

namespace Cascade

structure Insets where
  top : Binary64
  leading : Binary64
  trailing : Binary64
  bottom : Binary64
deriving DecidableEq

namespace Insets

def ofSides (s : Sides Binary64) : Insets := ⟨s.first, s.fourth, s.second, s.third⟩

def ofText? (t : Text) : Option Insets := (Sides.ofList? (Length.listOfText t)).map ofSides

def same (a b : Insets) : Bool :=
  a.top.same b.top && a.leading.same b.leading && a.trailing.same b.trailing &&
    a.bottom.same b.bottom

end Insets
end Cascade
