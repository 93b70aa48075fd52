import Cascade.Color.Provider
import Cascade.Font.Basic
import Cascade.Geometry.Corners
import Cascade.Geometry.Insets
import Cascade.Geometry.Point
import Cascade.Material

/-! The fields of a style.  One that no declaration sets, or whose last declaration could not be
read, is absent. -/

namespace Cascade

structure Style where
  foregroundColor : Option Color := none
  backgroundColor : Option Color := none
  fontSize : Option FontSize := none
  fontWeight : Option FontWeight := none
  padding : Option Insets := none
  margin : Option Insets := none
  cornerRadii : Option Corners := none
  borderWidth : Option Insets := none
  borderColor : Option Color := none
  backgroundImage : Option Text := none
  backgroundMaterial : Option Material := none
  offset : Option Point := none
  position : Option Point := none
  italic : Bool := false
  underline : Bool := false
  strikethrough : Bool := false
  decorationColor : Option Color := none
deriving DecidableEq

namespace Style

def empty : Style := {}

def font (s : Style) : Option Font :=
  if s.fontSize.isNone && s.fontWeight.isNone && !s.italic then none
  -- Without a size of its own a style has that of body text.
  else some ⟨s.fontSize.getD (.scaled .body), s.fontWeight, s.italic⟩

/-- A style has a font as soon as one of the three font fields says something. -/
theorem font_eq_none_iff {s : Style} :
    s.font = none ↔ s.fontSize = none ∧ s.fontWeight = none ∧ s.italic = false := by
  simp [font, and_assoc]

/-! ## Equality of values -/

def sameField {α : Type} (same : α → α → Bool) : Option α → Option α → Bool
  | none, none => true
  | some a, some b => same a b
  | _, _ => false

def same (a b : Style) : Bool :=
  sameField Color.same a.foregroundColor b.foregroundColor &&
  sameField Color.same a.backgroundColor b.backgroundColor &&
  sameField FontSize.same a.fontSize b.fontSize &&
  a.fontWeight == b.fontWeight &&
  sameField Insets.same a.padding b.padding &&
  sameField Insets.same a.margin b.margin &&
  sameField Corners.same a.cornerRadii b.cornerRadii &&
  sameField Insets.same a.borderWidth b.borderWidth &&
  sameField Color.same a.borderColor b.borderColor &&
  a.backgroundImage == b.backgroundImage &&
  a.backgroundMaterial == b.backgroundMaterial &&
  sameField Point.same a.offset b.offset &&
  sameField Point.same a.position b.position &&
  a.italic == b.italic &&
  a.underline == b.underline &&
  a.strikethrough == b.strikethrough &&
  sameField Color.same a.decorationColor b.decorationColor

def isEmpty (s : Style) : Bool := s.same empty

end Style
end Cascade
