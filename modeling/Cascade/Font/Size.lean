import Cascade.Length

/-! A font size follows a step of the type scale or is a number of points.  The keyword sizes are
whole numbers, which are written differently from doubles but compare by value. -/

namespace Cascade

/-! ## 1. The type scale -/

inductive TextStyle where
  | largeTitle
  | title
  | title2
  | title3
  | headline
  | subheadline
  | body
  | callout
  | footnote
  | caption
  | caption2
deriving DecidableEq, Repr

namespace TextStyle

def all : List TextStyle :=
  [.largeTitle, .title, .title2, .title3, .headline, .subheadline, .body, .callout, .footnote,
   .caption, .caption2]

def name : TextStyle → Text
  | .largeTitle => "large-title".toList
  | .title => "title".toList
  | .title2 => "title2".toList
  | .title3 => "title3".toList
  | .headline => "headline".toList
  | .subheadline => "subheadline".toList
  | .body => "body".toList
  | .callout => "callout".toList
  | .footnote => "footnote".toList
  | .caption => "caption".toList
  | .caption2 => "caption2".toList

def aliases : List (Text × TextStyle) :=
  [("title1".toList, .title), ("caption1".toList, .caption)]

def ofText? (t : Text) : Option TextStyle := (all.find? (·.name = t)).or (aliases.lookup t)

end TextStyle

/-! ## 2. Points -/

inductive Points where
  | whole (n : Nat)
  | measured (x : Binary64)
deriving DecidableEq

namespace Points

def value : Points → Binary64
  | .whole n => .ofNat n
  | .measured x => x

def same (a b : Points) : Bool := a.value.same b.value

def keywords : List (Text × Points) :=
  [("x-small".toList, .whole 10),
   ("small".toList, .whole 12),
   ("medium".toList, .whole 16),
   ("normal".toList, .whole 16),
   ("large".toList, .whole 20),
   ("x-large".toList, .whole 24),
   ("xx-large".toList, .whole 28)]

end Points

/-! ## 3. Sizes -/

inductive FontSize where
  | scaled (style : TextStyle)
  | fixed (points : Points)
deriving DecidableEq

namespace FontSize

def ofText? (t : Text) : Option FontSize :=
  -- A step of the type scale, a length with a unit, a keyword, and last a bare number.
  ((TextStyle.ofText? t).map .scaled).or
    (((Length.withUnit? t).map fun x => .fixed (.measured x)).or
      (((Points.keywords.lookup t).map .fixed).or
        ((Binary64.ofText? t).map fun x => .fixed (.measured x))))

def same : FontSize → FontSize → Bool
  | .scaled a, .scaled b => a = b
  | .fixed a, .fixed b => a.same b
  | _, _ => false

end FontSize
end Cascade
