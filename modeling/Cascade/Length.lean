import Cascade.Number.Numeral
import Cascade.Text.Blank

/-! A length is a number of logical pixels with an optional unit.  In a list of lengths between
single spaces, what is no length is passed over. -/

namespace Cascade.Length
open Text

def units : List Text := ["px".toList, "pt".toList]

def beforeUnit? (t unit : Text) : Option Binary64 :=
  -- Blanks may stand between the number and the unit.
  (unit.isSuffixOf? t).bind fun rest => Binary64.ofText? (trim rest)

def withUnit? (t : Text) : Option Binary64 := units.findSome? (beforeUnit? t)

def ofText? (t : Text) : Option Binary64 := (withUnit? t).or (Binary64.ofText? t)

def listOfText (t : Text) : List Binary64 := (t.splitOn ' ').filterMap ofText?

/-- Lists of lengths on the two sides of a space are read apart. -/
theorem listOfText_append (a b : Text) :
    listOfText (a ++ ' ' :: b) = listOfText a ++ listOfText b := by
  rw [listOfText, List.splitOn_append_cons_self, List.filterMap_append]
  rfl

end Cascade.Length
