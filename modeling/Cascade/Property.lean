import Cascade.Color.Reading
import Cascade.Style.Basic
import Cascade.TextDecoration

/-!
# Properties

Each property has fields of its own.  Assigning it overwrites them whether or not the value can be
read, and a value that cannot be read leaves its field absent.
-/

namespace Cascade

inductive Property where
  | color
  | backgroundColor
  | fontSize
  | fontWeight
  | fontStyle
  | padding
  | margin
  | borderRadius
  | borderWidth
  | borderColor
  | backgroundImage
  | backgroundMaterial
  | offset
  | position
  | textDecoration
  | textDecorationColor
deriving DecidableEq, Repr

namespace Property

def all : List Property :=
  [.color, .backgroundColor, .fontSize, .fontWeight, .fontStyle, .padding, .margin, .borderRadius,
   .borderWidth, .borderColor, .backgroundImage, .backgroundMaterial, .offset, .position,
   .textDecoration, .textDecorationColor]

def name : Property → Text
  | .color => "color".toList
  | .backgroundColor => "background-color".toList
  | .fontSize => "font-size".toList
  | .fontWeight => "font-weight".toList
  | .fontStyle => "font-style".toList
  | .padding => "padding".toList
  | .margin => "margin".toList
  | .borderRadius => "border-radius".toList
  | .borderWidth => "border-width".toList
  | .borderColor => "border-color".toList
  | .backgroundImage => "background-image".toList
  | .backgroundMaterial => "background-material".toList
  | .offset => "offset".toList
  | .position => "position".toList
  | .textDecoration => "text-decoration".toList
  | .textDecorationColor => "text-decoration-color".toList

def ofName? (t : Text) : Option Property := all.find? (·.name = t)

theorem mem_all (p : Property) : p ∈ all := by
  cases p <;> decide

theorem ofName?_name (p : Property) : ofName? p.name = some p := by
  have : ∀ p ∈ all, ofName? p.name = some p := by decide +kernel
  exact this p (mem_all p)

/-- A property goes by its name alone, in just that letter case. -/
theorem ofName?_eq_some_iff {t : Text} {p : Property} : ofName? t = some p ↔ t = p.name := by
  constructor
  · intro h
    have := List.find?_some h
    simpa using (of_decide_eq_true this).symm
  · rintro rfl
    exact ofName?_name p

def assign (p : Property) (provider : Provider) (value : Text) (s : Style) : Style :=
  match p with
  | .color => { s with foregroundColor := Color.ofText? provider value }
  | .backgroundColor => { s with backgroundColor := Color.ofText? provider value }
  | .fontSize => { s with fontSize := FontSize.ofText? value }
  | .fontWeight => { s with fontWeight := FontWeight.ofText? value }
  | .fontStyle => { s with italic := Font.isItalic value }
  | .padding => { s with padding := Insets.ofText? value }
  | .margin => { s with margin := Insets.ofText? value }
  | .borderRadius => { s with cornerRadii := Corners.ofText? value }
  | .borderWidth => { s with borderWidth := Insets.ofText? value }
  | .borderColor => { s with borderColor := Color.ofText? provider value }
  -- Any text names an image, so this field is never absent once it is set.
  | .backgroundImage => { s with backgroundImage := some (Text.trim value) }
  | .backgroundMaterial => { s with backgroundMaterial := Material.ofText? value }
  | .offset => { s with offset := Point.ofText? value }
  | .position => { s with position := Point.ofText? value }
  | .textDecoration =>
    -- Both lines come from one value, and what it does not name is off.
    let lines := TextDecoration.ofText value
    { s with underline := lines.underline, strikethrough := lines.strikethrough }
  | .textDecorationColor => { s with decorationColor := Color.ofText? provider value }

def reads (p : Property) (provider : Provider) (value : Text) : Bool :=
  match p with
  | .color | .backgroundColor | .borderColor | .textDecorationColor =>
    (Color.ofText? provider value).isSome
  | .fontSize => (FontSize.ofText? value).isSome
  | .fontWeight => (FontWeight.ofText? value).isSome
  | .padding | .margin | .borderWidth => (Insets.ofText? value).isSome
  | .borderRadius => (Corners.ofText? value).isSome
  | .backgroundMaterial => (Material.ofText? value).isSome
  | .offset | .position => (Point.ofText? value).isSome
  | .fontStyle | .backgroundImage | .textDecoration => true

end Property
end Cascade
