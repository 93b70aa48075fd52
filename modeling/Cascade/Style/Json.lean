import Cascade.Json.Basic
import Cascade.Style.Basic

/-! A style as a JSON object, with the fields that are present and always the three flags. -/

namespace Cascade

def Points.toJson : Points → Json
  | .whole n => .whole n
  | .measured x => .number x

def Color.toJson : Color → Json
  | .rgba c =>
    .object [("rgba".toList, .list [.number c.red, .number c.green, .number c.blue,
      .number c.opacity])]
  | .semantic token => .object [("semantic".toList, .text token.name)]

def FontSize.toJson : FontSize → Json
  | .scaled style => .object [("style".toList, .text style.name)]
  | .fixed points => .object [("size".toList, points.toJson)]

def Insets.toJson (i : Insets) : Json :=
  .object [("top".toList, .number i.top), ("start".toList, .number i.leading),
    ("end".toList, .number i.trailing), ("bottom".toList, .number i.bottom)]

def Corners.toJson (c : Corners) : Json :=
  .object [("start_top".toList, .number c.topLeading), ("end_top".toList, .number c.topTrailing),
    ("end_bottom".toList, .number c.bottomTrailing),
    ("start_bottom".toList, .number c.bottomLeading)]

def Point.toJson (p : Point) : Json :=
  .object [("x".toList, .number p.x), ("y".toList, .number p.y)]

namespace Style

def member {α : Type} (key : String) (encode : α → Json) (field : Option α) : List (Text × Json) :=
  (field.map fun v => (key.toList, encode v)).toList

def members (s : Style) : List (Text × Json) :=
  member "foreground_color" Color.toJson s.foregroundColor ++
  member "background_color" Color.toJson s.backgroundColor ++
  member "font_size" FontSize.toJson s.fontSize ++
  member "font_weight" (fun w => .text w.name) s.fontWeight ++
  member "padding" Insets.toJson s.padding ++
  member "margin" Insets.toJson s.margin ++
  member "corner_radii" Corners.toJson s.cornerRadii ++
  member "border_width" Insets.toJson s.borderWidth ++
  member "border_color" Color.toJson s.borderColor ++
  member "background_image" .text s.backgroundImage ++
  member "background_material" (fun m => .text m.name) s.backgroundMaterial ++
  member "offset" Point.toJson s.offset ++
  member "position" Point.toJson s.position ++
  member "italic" .flag (some s.italic) ++
  member "underline" .flag (some s.underline) ++
  member "strikethrough" .flag (some s.strikethrough) ++
  member "decoration_color" Color.toJson s.decorationColor

def toJson (s : Style) : Json := .object s.members

end Style
end Cascade
