import Cascade.Text.Basic

/-! Nine font weights from thin to black, numbered by the hundreds from 100 to 900. -/

namespace Cascade

inductive FontWeight where
  | thin
  | ultraLight
  | light
  | regular
  | medium
  | semibold
  | bold
  | heavy
  | black
deriving DecidableEq, Repr

namespace FontWeight

def all : List FontWeight :=
  [.thin, .ultraLight, .light, .regular, .medium, .semibold, .bold, .heavy, .black]

def name : FontWeight → Text
  | .thin => "thin".toList
  | .ultraLight => "ultra-light".toList
  | .light => "light".toList
  | .regular => "regular".toList
  | .medium => "medium".toList
  | .semibold => "semibold".toList
  | .bold => "bold".toList
  | .heavy => "heavy".toList
  | .black => "black".toList

def numeric : FontWeight → Nat
  | .thin => 100
  | .ultraLight => 200
  | .light => 300
  | .regular => 400
  | .medium => 500
  | .semibold => 600
  | .bold => 700
  | .heavy => 800
  | .black => 900

theorem numeric_eq (w : FontWeight) : w.numeric = (all.idxOf w + 1) * 100 := by
  cases w <;> rfl

def spellings : List (Text × FontWeight) :=
  -- The name of the second weight, ultra-light, is not among them.
  [("100".toList, .thin), ("thin".toList, .thin),
   ("200".toList, .ultraLight), ("ultralight".toList, .ultraLight),
   ("extra-light".toList, .ultraLight),
   ("300".toList, .light), ("light".toList, .light),
   ("400".toList, .regular), ("normal".toList, .regular), ("regular".toList, .regular),
   ("500".toList, .medium), ("medium".toList, .medium),
   ("600".toList, .semibold), ("semibold".toList, .semibold), ("semi-bold".toList, .semibold),
   ("700".toList, .bold), ("bold".toList, .bold),
   ("800".toList, .heavy), ("heavy".toList, .heavy), ("extrabold".toList, .heavy),
   ("900".toList, .black), ("black".toList, .black)]

def ofText? (t : Text) : Option FontWeight := spellings.lookup t

end FontWeight
end Cascade
