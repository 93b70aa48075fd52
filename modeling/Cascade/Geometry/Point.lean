import Cascade.Length

/-! A point or an offset in the plane, written as exactly two lengths. -/

namespace Cascade

structure Point where
  x : Binary64
  y : Binary64
deriving DecidableEq

namespace Point

def ofList? : List Binary64 → Option Point
  | [x, y] => some ⟨x, y⟩
  | _ => none

def ofText? (t : Text) : Option Point := ofList? (Length.listOfText t)

def same (a b : Point) : Bool := a.x.same b.x && a.y.same b.y

end Point
end Cascade
