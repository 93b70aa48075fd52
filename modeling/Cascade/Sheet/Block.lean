import Cascade.Sheet.Comment
import Cascade.Text.Blank

/-! A stylesheet without its comments is cut at closing braces.  A block is a rule when it has one
opening brace with something other than blanks on both sides. -/

namespace Cascade

inductive Block where
  | blank
  | malformed (t : Text)
  | rule (selectors : List Text) (body : Text)
deriving DecidableEq, Repr

namespace Block
open Text

def selectorsOf (t : Text) : List Text := ((t.splitOn ',').map trim).filter (· ≠ [])

def ofText (t : Text) : Block :=
  match t.splitOn '{' with
  | [selectors, body] =>
    if trim selectors = [] || trim body = [] then .blank
    else .rule (selectorsOf (trim selectors)) (trim body)
  -- No opening brace, or more than one.
  | _ => if trim t = [] then .blank else .malformed (trim t)

def listOfText (t : Text) : List Block := ((Comment.strip t).splitOn '}').map ofText

def definitions : Block → List (Text × Text)
  | rule selectors body => selectors.map (·, body)
  | _ => []

def lost? : Block → Option Text
  | malformed t => some t
  | _ => none

end Block
end Cascade
