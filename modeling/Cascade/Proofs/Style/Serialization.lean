import Cascade.Proofs.Alternatives
import Cascade.Proofs.Json.Sameness
import Cascade.Proofs.Style.LastDeclaration

/-!
# The serialized style

Each field is a member of its own, and no two kinds of values are written alike.  So styles are the
same exactly when they are serialized to the same object.
-/

namespace Cascade

/-! ## 1. What the fields are written as -/

namespace Field

def all : List Field :=
  [.foregroundColor, .backgroundColor, .fontSize, .fontWeight, .padding, .margin, .cornerRadii,
   .borderWidth, .borderColor, .backgroundImage, .backgroundMaterial, .offset, .position, .italic,
   .underline, .strikethrough, .decorationColor]

theorem mem_all (f : Field) : f ∈ all := by
  cases f <;> decide

def key : Field → Text
  | .foregroundColor => "foreground_color".toList
  | .backgroundColor => "background_color".toList
  | .fontSize => "font_size".toList
  | .fontWeight => "font_weight".toList
  | .padding => "padding".toList
  | .margin => "margin".toList
  | .cornerRadii => "corner_radii".toList
  | .borderWidth => "border_width".toList
  | .borderColor => "border_color".toList
  | .backgroundImage => "background_image".toList
  | .backgroundMaterial => "background_material".toList
  | .offset => "offset".toList
  | .position => "position".toList
  | .italic => "italic".toList
  | .underline => "underline".toList
  | .strikethrough => "strikethrough".toList
  | .decorationColor => "decoration_color".toList

theorem nodup_map_key_all : (all.map key).Nodup := by
  decide +kernel

def encode : (f : Field) → f.Value → Option Json
  | .foregroundColor | .backgroundColor | .borderColor | .decorationColor =>
    Option.map Color.toJson
  | .fontSize => Option.map FontSize.toJson
  | .fontWeight => Option.map fun w => .text w.name
  | .padding | .margin | .borderWidth => Option.map Insets.toJson
  | .cornerRadii => Option.map Corners.toJson
  | .backgroundImage => Option.map .text
  | .backgroundMaterial => Option.map fun m => .text m.name
  | .offset | .position => Option.map Point.toJson
  | .italic | .underline | .strikethrough => fun b => some (.flag b)

def same : (f : Field) → f.Value → f.Value → Bool
  | .foregroundColor | .backgroundColor | .borderColor | .decorationColor =>
    Style.sameField Color.same
  | .fontSize => Style.sameField FontSize.same
  | .fontWeight => fun v w : Option FontWeight => v == w
  | .padding | .margin | .borderWidth => Style.sameField Insets.same
  | .cornerRadii => Style.sameField Corners.same
  | .backgroundImage => fun v w : Option Text => v == w
  | .backgroundMaterial => fun v w : Option Material => v == w
  | .offset | .position => Style.sameField Point.same
  | .italic | .underline | .strikethrough => fun v w : Bool => v == w

end Field

namespace Style

/-- Styles are compared field by field. -/
theorem same_iff_forall {a b : Style} :
    a.same b = true ↔ ∀ f : Field, f.same (a.get f) (b.get f) = true := by
  unfold same
  simp only [Bool.and_eq_true]
  constructor
  · intro h f
    obtain ⟨⟨⟨⟨⟨⟨⟨⟨⟨⟨⟨⟨⟨⟨⟨⟨h1, h2⟩, h3⟩, h4⟩, h5⟩, h6⟩, h7⟩, h8⟩, h9⟩, h10⟩, h11⟩, h12⟩, h13⟩, h14⟩,
      h15⟩, h16⟩, h17⟩ := h
    cases f <;> assumption
  · intro h
    exact ⟨⟨⟨⟨⟨⟨⟨⟨⟨⟨⟨⟨⟨⟨⟨⟨h .foregroundColor, h .backgroundColor⟩, h .fontSize⟩, h .fontWeight⟩,
      h .padding⟩, h .margin⟩, h .cornerRadii⟩, h .borderWidth⟩, h .borderColor⟩,
      h .backgroundImage⟩, h .backgroundMaterial⟩, h .offset⟩, h .position⟩, h .italic⟩,
      h .underline⟩, h .strikethrough⟩, h .decorationColor⟩

theorem member_eq {α : Type} (key : String) (encode : α → Json) (field : Option α) :
    member key encode field = ((field.map encode).map fun v => (key.toList, v)).toList := by
  cases field <;> rfl

/-- The members are those of the present fields, in a fixed order. -/
theorem members_eq_present (s : Style) :
    s.members = Json.present Field.key (fun f => f.encode (s.get f)) Field.all := by
  unfold members Json.present Field.all
  simp only [member_eq, List.flatMap_cons, List.flatMap_nil, List.append_assoc, List.append_nil]
  rfl

/-- The objects of two styles are compared field by field as well. -/
theorem same_toJson_iff {a b : Style} :
    a.toJson.same b.toJson = true ↔
      ∀ f : Field, sameField Json.same (f.encode (a.get f)) (f.encode (b.get f)) = true := by
  unfold toJson
  rw [members_eq_present, members_eq_present, Json.same_object_present_iff Field.nodup_map_key_all]
  exact ⟨fun h f => h f f.mem_all, fun h f _ => h f⟩

theorem lookup_members (s : Style) (f : Field) : s.members.lookup f.key = f.encode (s.get f) := by
  rw [members_eq_present, Json.lookup_present Field.nodup_map_key_all f.mem_all]

/-- From the object of a style each of its fields can be told. -/
theorem encode_eq_of_toJson_eq {a b : Style} (h : a.toJson = b.toJson) (f : Field) :
    f.encode (a.get f) = f.encode (b.get f) := by
  have hmembers : a.members = b.members := Json.object.inj h
  rw [← a.lookup_members, ← b.lookup_members, hmembers]

end Style

/-! ## 2. No two values are written alike -/

theorem FontWeight.name_injective {a b : FontWeight} (h : a.name = b.name) : a = b := by
  cases a <;> cases b <;> first | rfl | exact absurd h (by decide)

theorem Material.name_injective {a b : Material} (h : a.name = b.name) : a = b := by
  cases a <;> cases b <;> first | rfl | exact absurd h (by decide)

theorem TextStyle.name_injective {a b : TextStyle} (h : a.name = b.name) : a = b := by
  cases a <;> cases b <;> first | rfl | exact absurd h (by decide)

theorem Points.toJson_injective {a b : Points} (h : a.toJson = b.toJson) : a = b := by
  cases a <;> cases b <;> simp_all [toJson]

/-- A semantic color has a member that a color of channels lacks. -/
theorem Color.toJson_injective {a b : Color} (h : a.toJson = b.toJson) : a = b := by
  cases a with
  | rgba c =>
    cases b with
    | rgba d =>
      cases c
      cases d
      simp_all [toJson]
    | semantic token => simp [toJson] at h
  | semantic token =>
    cases b with
    | rgba d => simp [toJson] at h
    | semantic token' =>
      simp only [toJson, Json.object.injEq, List.cons.injEq, Prod.mk.injEq, Json.text.injEq] at h
      rw [Token.name_injective h.1.2]

theorem FontSize.toJson_injective {a b : FontSize} (h : a.toJson = b.toJson) : a = b := by
  cases a with
  | scaled style =>
    cases b with
    | scaled style' =>
      simp only [toJson, Json.object.injEq, List.cons.injEq, Prod.mk.injEq, Json.text.injEq] at h
      rw [TextStyle.name_injective h.1.2]
    | fixed points => simp [toJson] at h
  | fixed points =>
    cases b with
    | scaled style => simp [toJson] at h
    | fixed points' =>
      simp only [toJson, Json.object.injEq, List.cons.injEq, Prod.mk.injEq] at h
      rw [Points.toJson_injective h.1.2]

theorem Insets.toJson_injective {a b : Insets} (h : a.toJson = b.toJson) : a = b := by
  cases a
  cases b
  simp_all [toJson]

theorem Corners.toJson_injective {a b : Corners} (h : a.toJson = b.toJson) : a = b := by
  cases a
  cases b
  simp_all [toJson]

theorem Point.toJson_injective {a b : Point} (h : a.toJson = b.toJson) : a = b := by
  cases a
  cases b
  simp_all [toJson]

/-- What a field holds can be told from how it is written. -/
theorem Field.encode_injective (f : Field) {v w : f.Value} (h : f.encode v = f.encode w) :
    v = w := by
  cases f with
  | foregroundColor | backgroundColor | borderColor | decorationColor =>
    exact Option.map_injective (fun _ _ => Color.toJson_injective) h
  | fontSize => exact Option.map_injective (fun _ _ => FontSize.toJson_injective) h
  | fontWeight =>
    exact Option.map_injective (fun _ _ hw => FontWeight.name_injective (Json.text.inj hw)) h
  | padding | margin | borderWidth =>
    exact Option.map_injective (fun _ _ => Insets.toJson_injective) h
  | cornerRadii => exact Option.map_injective (fun _ _ => Corners.toJson_injective) h
  | backgroundImage => exact Option.map_injective (fun _ _ => Json.text.inj) h
  | backgroundMaterial =>
    exact Option.map_injective (fun _ _ hm => Material.name_injective (Json.text.inj hm)) h
  | offset | position => exact Option.map_injective (fun _ _ => Point.toJson_injective) h
  | italic | underline | strikethrough => exact Json.flag.inj (Option.some.inj h)

/-! ## 3. Sameness of what is written -/

/-- A whole number up to 2^53 is a double, so it is compared exactly. -/
theorem Binary64.same_ofNat {n : Nat} (h : n ≤ Nat.pow 2 53) (x : Binary64) :
    (ofNat n).same x = x.isUnits (n * unitsPerOne) := by
  rw [ofNat_eq h, same_finite]

/-- The points that are the same number as a double, as those of every keyword are. -/
def Points.IsExact : Points → Prop
  | .whole n => n ≤ Nat.pow 2 53
  | .measured _ => True

/-- Points are compared as doubles in a style, and whole ones exactly in an object. -/
theorem Points.same_toJson {a b : Points} (ha : a.IsExact) (hb : b.IsExact) :
    a.toJson.same b.toJson = a.same b := by
  cases a with
  | whole n =>
    cases b with
    | whole m =>
      show (n == m) = (Binary64.ofNat n).same (Binary64.ofNat m)
      rw [Binary64.same_ofNat ha, Binary64.ofNat_eq hb]
      show (n == m) = (m * unitsPerOne == n * unitsPerOne && true)
      rw [Bool.and_true, Bool.eq_iff_iff, beq_iff_eq, beq_iff_eq]
      exact ⟨fun hnm => by rw [hnm], fun hunits =>
        (Nat.eq_of_mul_eq_mul_right unitsPerOne_pos hunits).symm⟩
    | measured y =>
      show y.isUnits (n * unitsPerOne) = (Binary64.ofNat n).same y
      rw [Binary64.same_ofNat ha]
  | measured x =>
    cases b with
    | whole m =>
      show x.isUnits (m * unitsPerOne) = x.same (Binary64.ofNat m)
      rw [Binary64.same_comm, Binary64.same_ofNat hb]
    | measured y => rfl

theorem Color.same_toJson (a b : Color) : a.toJson.same b.toJson = a.same b := by
  cases a with
  | rgba c =>
    cases b with
    | rgba d =>
      show ((c.red.same d.red && (c.green.same d.green && (c.blue.same d.blue &&
        (c.opacity.same d.opacity && true)))) && true && true) = c.same d
      simp only [Rgba.same, Bool.and_true, Bool.and_assoc]
    | semantic token => rfl
  | semantic token =>
    cases b with
    | rgba d => rfl
    | semantic token' =>
      show ((token.name == token'.name) && true && true) = decide (token = token')
      rw [Bool.and_true, Bool.and_true, Bool.eq_iff_iff, beq_iff_eq, decide_eq_true_iff]
      exact ⟨Token.name_injective, congrArg Token.name⟩

theorem Insets.same_toJson (a b : Insets) : a.toJson.same b.toJson = a.same b := by
  show ((a.top.same b.top && (a.leading.same b.leading && (a.trailing.same b.trailing &&
    (a.bottom.same b.bottom && true)))) && true) = a.same b
  simp only [Insets.same, Bool.and_true, Bool.and_assoc]

theorem Corners.same_toJson (a b : Corners) : a.toJson.same b.toJson = a.same b := by
  show ((a.topLeading.same b.topLeading && (a.topTrailing.same b.topTrailing &&
    (a.bottomTrailing.same b.bottomTrailing && (a.bottomLeading.same b.bottomLeading && true)))) &&
    true) = a.same b
  simp only [Corners.same, Bool.and_true, Bool.and_assoc]

theorem Point.same_toJson (a b : Point) : a.toJson.same b.toJson = a.same b := by
  show ((a.x.same b.x && (a.y.same b.y && true)) && true) = a.same b
  simp only [Point.same, Bool.and_true]

namespace FontSize

def IsExact : FontSize → Prop
  | .scaled _ => True
  | .fixed points => points.IsExact

theorem same_toJson {a b : FontSize} (ha : a.IsExact) (hb : b.IsExact) :
    a.toJson.same b.toJson = a.same b := by
  cases a with
  | scaled style =>
    cases b with
    | scaled style' =>
      show ((style.name == style'.name) && true && true) = decide (style = style')
      rw [Bool.and_true, Bool.and_true, Bool.eq_iff_iff, beq_iff_eq, decide_eq_true_iff]
      exact ⟨TextStyle.name_injective, congrArg TextStyle.name⟩
    | fixed points => rfl
  | fixed points =>
    cases b with
    | scaled style => rfl
    | fixed points' =>
      show (points.toJson.same points'.toJson && true && true) = points.same points'
      rw [Bool.and_true, Bool.and_true, Points.same_toJson ha hb]

theorem Points.isExact_of_mem_keywords : ∀ m ∈ Points.keywords, m.2.IsExact := by
  simp [Points.keywords, Points.IsExact]

/-- The whole numbers that are read are those of the keywords. -/
theorem isExact_of_ofText? {t : Text} {size : FontSize} (h : ofText? t = some size) :
    size.IsExact := by
  unfold ofText? at h
  -- Rule by rule, of which only the keywords give whole numbers.
  cases hstyle : TextStyle.ofText? t with
  | some style =>
    rw [hstyle] at h
    cases h
    trivial
  | none =>
    cases hunit : Length.withUnit? t with
    | some x =>
      rw [hstyle, hunit] at h
      cases h
      trivial
    | none =>
      cases hkeyword : Points.keywords.lookup t with
      | some points =>
        rw [hstyle, hunit, hkeyword] at h
        cases h
        exact Points.isExact_of_mem_keywords (t, points) (mem_of_lookup_eq_some hkeyword)
      | none =>
        rw [hstyle, hunit, hkeyword] at h
        obtain ⟨x, -, rfl⟩ := Option.map_eq_some_iff.1 h
        trivial

end FontSize

/-! ## 4. Fields and styles -/

theorem Json.same_flag (b c : Bool) : (flag b).same (flag c) = (b == c) := by
  cases b <;> cases c <;> rfl

theorem Style.sameField_map {α : Type} {same : α → α → Bool} {encode : α → Json} {v w : Option α}
    (h : ∀ x ∈ v, ∀ y ∈ w, (encode x).same (encode y) = same x y) :
    sameField Json.same (v.map encode) (w.map encode) = sameField same v w := by
  cases v with
  | none => cases w <;> rfl
  | some x =>
    cases w with
    | none => rfl
    | some y => exact h x rfl y rfl

theorem Style.sameField_map_text {α : Type} [BEq α] [LawfulBEq α] {name : α → Text}
    (h : ∀ x y, name x = name y → x = y) (v w : Option α) :
    sameField Json.same (v.map fun x => .text (name x)) (w.map fun x => .text (name x)) =
      (v == w) := by
  cases v with
  | none => cases w <;> rfl
  | some x =>
    cases w with
    | none => rfl
    | some y =>
      show (name x == name y) = (some x == some y)
      rw [Bool.eq_iff_iff, beq_iff_eq, beq_iff_eq, Option.some.injEq]
      exact ⟨h x y, congrArg name⟩

namespace Field

def IsExact : (f : Field) → f.Value → Prop
  | .fontSize => fun v : Option FontSize => ∀ size ∈ v, size.IsExact
  | _ => fun _ => True

/-- What is written of a field is the same exactly when its values are. -/
theorem sameField_encode (f : Field) {v w : f.Value} (hv : f.IsExact v) (hw : f.IsExact w) :
    Style.sameField Json.same (f.encode v) (f.encode w) = f.same v w := by
  cases f with
  | foregroundColor | backgroundColor | borderColor | decorationColor =>
    exact Style.sameField_map fun c _ d _ => Color.same_toJson c d
  | fontSize =>
    exact Style.sameField_map fun size hsize size' hsize' =>
      FontSize.same_toJson (hv size hsize) (hw size' hsize')
  | fontWeight => exact Style.sameField_map_text (fun _ _ => FontWeight.name_injective) v w
  | padding | margin | borderWidth =>
    exact Style.sameField_map fun i _ j _ => Insets.same_toJson i j
  | cornerRadii => exact Style.sameField_map fun c _ d _ => Corners.same_toJson c d
  | backgroundImage => exact Style.sameField_map_text (fun _ _ h => h) v w
  | backgroundMaterial => exact Style.sameField_map_text (fun _ _ => Material.name_injective) v w
  | offset | position => exact Style.sameField_map fun p _ q _ => Point.same_toJson p q
  | italic | underline | strikethrough => exact Json.same_flag v w

/-- Only the default itself is the same as the default. -/
theorem same_default_iff (f : Field) {v : f.Value} : f.same v f.default = true ↔ v = f.default := by
  have hnone {α : Type} (same : α → α → Bool) (v : Option α) :
      Style.sameField same v none = true ↔ v = none := by
    cases v <;> simp [Style.sameField]
  cases f with
  | foregroundColor | backgroundColor | borderColor | decorationColor => exact hnone Color.same v
  | fontSize => exact hnone FontSize.same v
  | padding | margin | borderWidth => exact hnone Insets.same v
  | cornerRadii => exact hnone Corners.same v
  | offset | position => exact hnone Point.same v
  | fontWeight | backgroundImage | backgroundMaterial => exact beq_iff_eq
  | italic | underline | strikethrough => exact beq_iff_eq

/-- What a field is set to was read from a text. -/
theorem isExact_ofLastValue (f : Field) (provider : Provider) (value : Option Text) :
    f.IsExact (f.ofLastValue provider value) := by
  cases f with
  | fontSize =>
    intro size hsize
    cases value with
    | none => cases hsize
    | some value => exact FontSize.isExact_of_ofText? hsize
  | _ => trivial

end Field

namespace Style

theorem isExact_get_ofText (provider : Provider) (t : Text) (f : Field) :
    f.IsExact ((ofText provider t).get f) := by
  have hget := get_ofDeclarations provider (Declaration.listOfText t) f
  show f.IsExact ((ofDeclarations provider (Declaration.listOfText t)).get f)
  rw [hget]
  exact f.isExact_ofLastValue provider _

theorem toJson_injective {a b : Style} (h : a.toJson = b.toJson) : a = b :=
  eq_of_get_eq fun f => f.encode_injective (encode_eq_of_toJson_eq h f)

/-- A style is empty if all of its fields hold their defaults. -/
theorem isEmpty_iff {s : Style} : s.isEmpty = true ↔ s = empty := by
  unfold isEmpty
  rw [same_iff_forall]
  constructor
  · intro h
    apply eq_of_get_eq
    intro f
    have hf := h f
    rw [get_empty] at hf ⊢
    exact f.same_default_iff.1 hf
  · intro h f
    rw [h, get_empty]
    exact f.same_default_iff.2 rfl

/-- **The serialized style loses nothing.**  Two styles that were read from texts, with whatever
providers, are the same exactly when they are serialized to the same object, and equal in every
detail exactly when the objects are.  A style is empty exactly when nothing but the three flags is
left of it, all of them off. -/
theorem same_iff_same_toJson (provider provider' : Provider) (t t' : Text) :
    let a := ofText provider t
    let b := ofText provider' t'
    (a.same b = true ↔ a.toJson.same b.toJson = true) ∧
      (a = b ↔ a.toJson = b.toJson) ∧
      (a.isEmpty = true ↔ a.toJson = .object [("italic".toList, .flag false),
        ("underline".toList, .flag false), ("strikethrough".toList, .flag false)]) := by
  intro a b
  refine ⟨?_, ⟨congrArg toJson, toJson_injective⟩, ?_⟩
  · rw [same_iff_forall, same_toJson_iff]
    apply forall_congr'
    intro f
    rw [f.sameField_encode (isExact_get_ofText provider t f) (isExact_get_ofText provider' t' f)]
  · have hempty : empty.toJson = .object [("italic".toList, .flag false),
        ("underline".toList, .flag false), ("strikethrough".toList, .flag false)] := rfl
    rw [isEmpty_iff, ← hempty]
    exact ⟨congrArg toJson, toJson_injective⟩

example : (ofText .deferred "font-size: medium".toList).toJson.same
    (ofText .empty "font-size: 16px".toList).toJson = true := by decide +kernel

end Style
end Cascade
