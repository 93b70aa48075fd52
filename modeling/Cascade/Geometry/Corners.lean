import Cascade.Geometry.Sides
import Cascade.Length

/-! The radii of the corners of a rectangle, of which the left ones are the leading ones. -/

namespace Cascade

structure Corners where
  topLeading : Binary64
  topTrailing : Binary64
  bottomTrailing : Binary64
  bottomLeading : Binary64
deriving DecidableEq

namespace Corners

def ofSides (s : Sides Binary64) : Corners := ⟨s.first, s.second, s.third, s.fourth⟩

def ofText? (t : Text) : Option Corners := (Sides.ofList? (Length.listOfText t)).map ofSides

def same (a b : Corners) : Bool :=
  a.topLeading.same b.topLeading && a.topTrailing.same b.topTrailing &&
    a.bottomTrailing.same b.bottomTrailing && a.bottomLeading.same b.bottomLeading

end Corners
end Cascade
