import Cascade.Declaration

/-!
# Fields of a style

Each field is set by one property, and an assignment leaves the fields of other properties alone.
-/

namespace Cascade

/-! ## 1. Fields, what they hold and what sets them -/

inductive Field where
  | foregroundColor
  | backgroundColor
  | fontSize
  | fontWeight
  | padding
  | margin
  | cornerRadii
  | borderWidth
  | borderColor
  | backgroundImage
  | backgroundMaterial
  | offset
  | position
  | italic
  | underline
  | strikethrough
  | decorationColor
deriving DecidableEq, Repr

namespace Field

def Value : Field → Type
  | .foregroundColor | .backgroundColor | .borderColor | .decorationColor => Option Color
  | .fontSize => Option FontSize
  | .fontWeight => Option FontWeight
  | .padding | .margin | .borderWidth => Option Insets
  | .cornerRadii => Option Corners
  | .backgroundImage => Option Text
  | .backgroundMaterial => Option Material
  | .offset | .position => Option Point
  | .italic | .underline | .strikethrough => Bool

def property : Field → Property
  | .foregroundColor => .color
  | .backgroundColor => .backgroundColor
  | .fontSize => .fontSize
  | .fontWeight => .fontWeight
  | .padding => .padding
  | .margin => .margin
  | .cornerRadii => .borderRadius
  | .borderWidth => .borderWidth
  | .borderColor => .borderColor
  | .backgroundImage => .backgroundImage
  | .backgroundMaterial => .backgroundMaterial
  | .offset => .offset
  | .position => .position
  | .italic => .fontStyle
  | .underline | .strikethrough => .textDecoration
  | .decorationColor => .textDecorationColor

def default : (f : Field) → f.Value
  | .foregroundColor | .backgroundColor | .borderColor | .decorationColor =>
    (none : Option Color)
  | .fontSize => (none : Option FontSize)
  | .fontWeight => (none : Option FontWeight)
  | .padding | .margin | .borderWidth => (none : Option Insets)
  | .cornerRadii => (none : Option Corners)
  | .backgroundImage => (none : Option Text)
  | .backgroundMaterial => (none : Option Material)
  | .offset | .position => (none : Option Point)
  | .italic | .underline | .strikethrough => false

/-- What a field holds once its property is set to a value.  A value that cannot be read leaves
the field absent; an image is any text, and a flag reads every value. -/
def read (provider : Provider) (value : Text) : (f : Field) → f.Value
  | .foregroundColor | .backgroundColor | .borderColor | .decorationColor =>
    Color.ofText? provider value
  | .fontSize => FontSize.ofText? value
  | .fontWeight => FontWeight.ofText? value
  | .padding | .margin | .borderWidth => Insets.ofText? value
  | .cornerRadii => Corners.ofText? value
  | .backgroundImage => some (Text.trim value)
  | .backgroundMaterial => Material.ofText? value
  | .offset | .position => Point.ofText? value
  | .italic => Font.isItalic value
  | .underline => (TextDecoration.ofText value).underline
  | .strikethrough => (TextDecoration.ofText value).strikethrough

end Field

namespace Style

def get (s : Style) : (f : Field) → f.Value
  | .foregroundColor => s.foregroundColor
  | .backgroundColor => s.backgroundColor
  | .fontSize => s.fontSize
  | .fontWeight => s.fontWeight
  | .padding => s.padding
  | .margin => s.margin
  | .cornerRadii => s.cornerRadii
  | .borderWidth => s.borderWidth
  | .borderColor => s.borderColor
  | .backgroundImage => s.backgroundImage
  | .backgroundMaterial => s.backgroundMaterial
  | .offset => s.offset
  | .position => s.position
  | .italic => s.italic
  | .underline => s.underline
  | .strikethrough => s.strikethrough
  | .decorationColor => s.decorationColor

theorem get_empty (f : Field) : empty.get f = f.default := by
  cases f <;> rfl

/-- The seventeen fields are the whole style. -/
theorem eq_of_get_eq {a b : Style} (h : ∀ f : Field, a.get f = b.get f) : a = b := by
  cases a
  cases b
  rw [Style.mk.injEq]
  exact ⟨h .foregroundColor, h .backgroundColor, h .fontSize, h .fontWeight, h .padding, h .margin,
    h .cornerRadii, h .borderWidth, h .borderColor, h .backgroundImage, h .backgroundMaterial,
    h .offset, h .position, h .italic, h .underline, h .strikethrough, h .decorationColor⟩

end Style

/-! ## 2. What an assignment changes -/

/-- No two properties have the same name. -/
theorem Property.name_inj {p q : Property} : p.name = q.name ↔ p = q := by
  constructor
  · intro h
    have hq : ofName? p.name = some q := by rw [h, ofName?_name]
    rw [ofName?_name, Option.some.injEq] at hq
    exact hq
  · intro h
    rw [h]

/-- A property overwrites its own fields, whatever it is set to. -/
theorem Style.get_assign (p : Property) (provider : Provider) (value : Text) (s : Style)
    (f : Field) :
    (p.assign provider value s).get f =
      if p = f.property then f.read provider value else s.get f := by
  -- Each pair of a property and a field is one branch of the assignment.
  cases p <;> cases f <;> rfl

/-- A declaration does so by the name of its property, and an unknown one does nothing. -/
theorem Style.get_apply (provider : Provider) (s : Style) (d : Declaration) (f : Field) :
    (d.apply provider s).get f =
      if d.property = f.property.name then f.read provider d.value else s.get f := by
  unfold Declaration.apply Declaration.property?
  cases hp : Property.ofName? d.property with
  | none =>
    -- The name of the property of a field is always known.
    have hne : d.property ≠ f.property.name := by
      intro h
      rw [h, Property.ofName?_name] at hp
      exact absurd hp (by simp)
    rw [if_neg hne]
  | some p =>
    have hd : d.property = p.name := Property.ofName?_eq_some_iff.1 hp
    rw [hd]
    simp only [Property.name_inj]
    exact get_assign p provider d.value s f

end Cascade
