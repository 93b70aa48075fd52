import Cascade.Number.Numeral

/-! A double is written with the fewest decimal digits that read back as that double.  For every
number of digits the two neighbours of its value are tried, the nearer one first. -/

namespace Cascade

/-! ## 1. The digits -/

namespace Binary64

/-- The exponent of ten of the first digit of a magnitude. The scale makes the smallest positive
double larger than one. -/
def leadingExponent (units : Nat) : Int :=
  (Nat.toDigits 10 (units * Nat.pow 10 400 / unitsPerOne)).length - 401

def scaled (units : Nat) (exponent : Int) : Nat × Nat :=
  match exponent with
  | .ofNat e => (units, unitsPerOne * Nat.pow 10 e)
  | .negSucc e => (units * Nat.pow 10 (e + 1), unitsPerOne)

/-- The numbers beside a magnitude that have `count` digits when the first one stands at the
exponent `leading`, the nearer one first. -/
def neighbours (negative : Bool) (units : Nat) (leading : Int) (count : Nat) : List Numeral :=
  let exponent := leading - (count - 1 : Nat)
  let (num, den) := scaled units exponent
  -- The nearest one is tried first; it is repeated as one of the two neighbours.
  [roundDiv num den, num / den, num / den + 1].map (⟨negative, ·, exponent⟩)

def exactNumeral (negative : Bool) (units : Nat) : Numeral :=
  ⟨negative, units * Nat.pow 5 1074, -1074⟩

def shortest (negative : Bool) (units : Nat) (grid : IsGrid units) : Numeral :=
  let readsBack (n : Numeral) : Bool := n.toBinary64 = .finite negative units grid
  let leading := leadingExponent units
  -- Seventeen digits always suffice, so the exact numeral is never needed.
  ((List.range 17).findSome? fun i =>
    (neighbours negative units leading (i + 1)).find? readsBack).getD (exactNumeral negative units)

end Binary64

/-! ## 2. The text -/

/-- How numbers are laid out: the exponents from `leastPositional` up to but not including
`positionalBound` are spelt out by the place of the point, the others follow an `e`, with a sign
and at least `exponentWidth` digits. -/
structure NumberLayout where
  leastPositional : Int
  positionalBound : Int
  exponentWidth : Nat
  infinity : Text
  nan : Text

namespace NumberLayout

def exponentText (layout : NumberLayout) (e : Int) : Text :=
  let digits := Nat.toDigits 10 e.natAbs
  'e' :: (if e < 0 then '-' else '+') ::
    (List.replicate (layout.exponentWidth - digits.length) '0' ++ digits)

/-- Digits with the point after the first `point` of them, filled up with zeros; at least one
digit stands on either side of it. -/
def positionalText (digits : Text) (point : Int) : Text :=
  if point ≤ 0 then '0' :: '.' :: List.replicate (-point).toNat '0' ++ digits
  else
    let whole := digits.take point.toNat
    let fraction := digits.drop point.toNat
    whole ++ List.replicate (point.toNat - whole.length) '0' ++
      '.' :: (if fraction.isEmpty then ['0'] else fraction)

def scientificText (layout : NumberLayout) (digits : Text) (e : Int) : Text :=
  match digits with
  | first :: second :: rest => first :: '.' :: second :: rest ++ layout.exponentText e
  | _ => digits ++ layout.exponentText e

def numeralText (layout : NumberLayout) (n : Numeral) : Text :=
  let all := Nat.toDigits 10 n.significand
  -- Final zeros of the significand are no digits of the shortest text.
  let digits := (all.reverse.dropWhile (· = '0')).reverse
  let e := n.exponent + all.length - 1
  let magnitude :=
    if layout.leastPositional ≤ e && e < layout.positionalBound then positionalText digits (e + 1)
    else layout.scientificText digits e
  if n.negative then '-' :: magnitude else magnitude

def text (layout : NumberLayout) : Binary64 → Text
  | .finite negative units grid =>
    layout.numeralText
      (if units = 0 then ⟨negative, 0, 0⟩ else Binary64.shortest negative units grid)
  | .infinite negative => if negative then '-' :: layout.infinity else layout.infinity
  | .nan => layout.nan

end NumberLayout
end Cascade
