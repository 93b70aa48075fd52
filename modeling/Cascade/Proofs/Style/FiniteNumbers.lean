import Cascade.Proofs.Color.Hexadecimal
import Cascade.Proofs.Json.Document
import Cascade.Proofs.Style.Serialization

/-!
# The numbers of a style are finite

No text sets a number that is not finite, so a style has finite numbers if its provider does.
-/

namespace Cascade

/-! ## 1. Colors -/

namespace Rgba

def isFinite (c : Rgba) : Bool :=
  c.red.isFinite && c.green.isFinite && c.blue.isFinite && c.opacity.isFinite

theorem isFinite_iff {c : Rgba} : c.isFinite = true ↔ c.red.isFinite = true ∧
    c.green.isFinite = true ∧ c.blue.isFinite = true ∧ c.opacity.isFinite = true := by
  simp [isFinite, and_assoc]

theorem isFinite_mk {r g b a : Binary64} (hr : r.isFinite = true) (hg : g.isFinite = true)
    (hb : b.isFinite = true) (ha : a.isFinite = true) : (Rgba.mk r g b a).isFinite = true :=
  isFinite_iff.2 ⟨hr, hg, hb, ha⟩

theorem isFinite_ofOctets {r g b a : Nat} (hr : r ≤ 255) (hg : g ≤ 255) (hb : b ≤ 255)
    (ha : a ≤ 255) : (ofOctets r g b a).isFinite = true :=
  isFinite_mk (isFinite_channelOfOctet hr) (isFinite_channelOfOctet hg) (isFinite_channelOfOctet hb)
    (isFinite_channelOfOctet ha)

/-- A quotient of an octet is at most one. -/
theorem isFinite_of_ofHex? {t : Text} {c : Rgba} (h : ofHex? t = some c) : c.isFinite = true := by
  unfold ofHex? at h
  split at h
  · rename_i r g b hoctets
    have hle := le_of_mem_octets? hoctets
    rw [← Option.some.inj h]
    exact isFinite_ofOctets (hle r (by simp)) (hle g (by simp)) (hle b (by simp)) (by decide)
  · rename_i r g b a hoctets
    have hle := le_of_mem_octets? hoctets
    rw [← Option.some.inj h]
    exact isFinite_ofOctets (hle r (by simp)) (hle g (by simp)) (hle b (by simp)) (hle a (by simp))
  · cases h

/-- A component is finite, and dividing it leaves it so. -/
theorem isFinite_of_ofComponents? {t : Text} {c : Rgba} (h : ofComponents? t = some c) :
    c.isFinite = true := by
  unfold ofComponents? at h
  split at h
  · rename_i r g b hparts
    have hfinite : ∀ x : Binary64, some x ∈ [some r, some g, some b] →
        (x.divNat 255).isFinite = true := by
      intro x hx
      rw [← hparts] at hx
      obtain ⟨part, -, hpart⟩ := List.mem_map.1 hx
      exact Binary64.isFinite_divNat (Binary64.isFinite_of_ofText? hpart) (by decide)
    rw [← Option.some.inj h]
    exact isFinite_mk (hfinite r (by simp)) (hfinite g (by simp)) (hfinite b (by simp))
      Binary64.isFinite_one
  · cases h

theorem isFinite_of_ofName? {t : Text} {c : Rgba} (h : ofName? t = some c) : c.isFinite = true := by
  have hnamed : ∀ m ∈ named, m.2.isFinite = true := by decide +kernel
  exact hnamed (t, c) (mem_of_lookup_eq_some h)

end Rgba

def Color.isFinite : Color → Bool
  | .rgba c => c.isFinite
  | .semantic _ => true

def Provider.IsFinite (provider : Provider) : Prop :=
  ∀ name, ∀ c ∈ provider.resolve name, c.isFinite = true

theorem Palette.isFinite_provider {p : Palette} (h : ∀ m ∈ p.colors, m.2.isFinite = true) :
    (Provider.palette p).IsFinite := by
  intro name c hc
  obtain ⟨rgba, hfound, rfl⟩ := Option.map_eq_some_iff.1 hc
  exact h (name, rgba) (mem_of_lookup_eq_some hfound)

/-- The colors of both palettes were checked one by one. -/
theorem Platform.isFinite_provider (p : Platform) : p.provider.IsFinite := by
  cases p with
  | deferred =>
    intro name c hc
    obtain ⟨token, -, rfl⟩ := Option.map_eq_some_iff.1 hc
    rfl
  | uikit =>
    apply Palette.isFinite_provider
    decide +kernel
  | appkit =>
    apply Palette.isFinite_provider
    decide +kernel
  | plain =>
    intro name c hc
    cases hc

/-- However a color is written, its channels are finite, or they are the provider's. -/
theorem Color.isFinite_of_ofText? {provider : Provider} (hprovider : provider.IsFinite) {t : Text}
    {c : Color} (h : ofText? provider t = some c) : c.isFinite = true := by
  unfold ofText? at h
  split at h
  · rename_i rgba hname
    cases h
    exact Rgba.isFinite_of_ofName? hname
  · exact hprovider _ c h
  · obtain ⟨rgba, hliteral, rfl⟩ := Option.map_eq_some_iff.1 h
    unfold literal? at hliteral
    split at hliteral
    · exact Rgba.isFinite_of_ofHex? hliteral
    · split at hliteral
      · exact Rgba.isFinite_of_ofComponents? hliteral
      · cases hliteral

/-! ## 2. Lengths -/

namespace Length

theorem isFinite_of_withUnit? {t : Text} {x : Binary64} (h : withUnit? t = some x) :
    x.isFinite = true := by
  obtain ⟨unit, -, hunit⟩ := List.exists_of_findSome?_eq_some h
  obtain ⟨rest, -, hrest⟩ := Option.bind_eq_some_iff.1 hunit
  exact Binary64.isFinite_of_ofText? hrest

/-- A length is a number that was read, and those are finite. -/
theorem isFinite_of_mem_listOfText {t : Text} {x : Binary64} (h : x ∈ listOfText t) :
    x.isFinite = true := by
  obtain ⟨part, -, hpart⟩ := List.mem_filterMap.1 h
  rcases Option.or_eq_some_iff.1 hpart with hunit | ⟨-, hbare⟩
  · exact isFinite_of_withUnit? hunit
  · exact Binary64.isFinite_of_ofText? hbare

end Length

theorem Sides.mem_of_ofList? {α : Type} {values : List α} {s : Sides α}
    (h : ofList? values = some s) :
    s.first ∈ values ∧ s.second ∈ values ∧ s.third ∈ values ∧ s.fourth ∈ values := by
  unfold ofList? at h
  split at h
  all_goals cases h
  all_goals simp

/-! ## 3. Values as they are written -/

theorem Color.isFinite_toJson {c : Color} (h : c.isFinite = true) : c.toJson.IsFinite := by
  cases c with
  | rgba rgba =>
    obtain ⟨hr, hg, hb, ha⟩ := Rgba.isFinite_iff.1 h
    simp [toJson, hr, hg, hb, ha]
  | semantic token => simp [toJson]

/-- Each of the four rules for font sizes gives a finite number or none. -/
theorem FontSize.isFinite_toJson {t : Text} {size : FontSize} (h : ofText? t = some size) :
    size.toJson.IsFinite := by
  have hmeasured {x : Binary64} (hx : x.isFinite = true) :
      (FontSize.fixed (.measured x)).toJson.IsFinite := by
    simp [toJson, Points.toJson, hx]
  rcases Option.or_eq_some_iff.1 h with hstyle | ⟨-, h⟩
  · obtain ⟨style, -, rfl⟩ := Option.map_eq_some_iff.1 hstyle
    simp [toJson]
  rcases Option.or_eq_some_iff.1 h with hunit | ⟨-, h⟩
  · obtain ⟨x, hx, rfl⟩ := Option.map_eq_some_iff.1 hunit
    exact hmeasured (Length.isFinite_of_withUnit? hx)
  rcases Option.or_eq_some_iff.1 h with hkeyword | ⟨-, hbare⟩
  · have hwhole : ∀ m ∈ Points.keywords, (FontSize.fixed m.2).toJson.IsFinite := by
      simp [Points.keywords, toJson, Points.toJson]
    obtain ⟨points, hpoints, rfl⟩ := Option.map_eq_some_iff.1 hkeyword
    exact hwhole (t, points) (mem_of_lookup_eq_some hpoints)
  · obtain ⟨x, hx, rfl⟩ := Option.map_eq_some_iff.1 hbare
    exact hmeasured (Binary64.isFinite_of_ofText? hx)

section
variable {t : Text} {s : Sides Binary64} (h : Sides.ofList? (Length.listOfText t) = some s)
include h

theorem Sides.isFinite_of_ofList? : s.first.isFinite = true ∧ s.second.isFinite = true ∧
    s.third.isFinite = true ∧ s.fourth.isFinite = true := by
  obtain ⟨hfirst, hsecond, hthird, hfourth⟩ := mem_of_ofList? h
  exact ⟨Length.isFinite_of_mem_listOfText hfirst, Length.isFinite_of_mem_listOfText hsecond,
    Length.isFinite_of_mem_listOfText hthird, Length.isFinite_of_mem_listOfText hfourth⟩

theorem Insets.isFinite_toJson_ofSides : (ofSides s).toJson.IsFinite := by
  obtain ⟨hfirst, hsecond, hthird, hfourth⟩ := Sides.isFinite_of_ofList? h
  simp [toJson, ofSides, hfirst, hsecond, hthird, hfourth]

theorem Corners.isFinite_toJson_ofSides : (ofSides s).toJson.IsFinite := by
  obtain ⟨hfirst, hsecond, hthird, hfourth⟩ := Sides.isFinite_of_ofList? h
  simp [toJson, ofSides, hfirst, hsecond, hthird, hfourth]

end

theorem Point.isFinite_toJson {t : Text} {p : Point} (h : ofText? t = some p) :
    p.toJson.IsFinite := by
  have hfinite : ∀ x ∈ Length.listOfText t, x.isFinite = true :=
    fun x => Length.isFinite_of_mem_listOfText
  unfold ofText? ofList? at h
  split at h
  · rename_i x y hlengths
    rw [hlengths] at hfinite
    cases h
    simp [toJson, hfinite x (by simp), hfinite y (by simp)]
  · cases h

/-! ## 4. Styles -/

theorem Json.isFinite_of_map {α : Type} {encode : α → Json} {field : Option α}
    (h : ∀ a, field = some a → (encode a).IsFinite) {v : Json} (hv : field.map encode = some v) :
    v.IsFinite := by
  obtain ⟨a, ha, rfl⟩ := Option.map_eq_some_iff.1 hv
  exact h a ha

namespace Field

/-- So whatever a field is set to is written with finite numbers. -/
theorem isFinite_encode_read (f : Field) {provider : Provider} (hprovider : provider.IsFinite)
    (value : Text) {v : Json} (hv : f.encode (f.read provider value) = some v) : v.IsFinite := by
  -- By kinds of fields: colors, sizes and lengths have numbers, the others none.
  cases f with
  | foregroundColor | backgroundColor | borderColor | decorationColor =>
    exact Json.isFinite_of_map
      (fun c hc => Color.isFinite_toJson (Color.isFinite_of_ofText? hprovider hc)) hv
  | fontSize => exact Json.isFinite_of_map (fun size => FontSize.isFinite_toJson) hv
  | fontWeight => exact Json.isFinite_of_map (fun w _ => Json.isFinite_text w.name) hv
  | padding | margin | borderWidth =>
    refine Json.isFinite_of_map ?_ hv
    intro i hi
    obtain ⟨s, hs, rfl⟩ := Option.map_eq_some_iff.1 hi
    exact Insets.isFinite_toJson_ofSides hs
  | cornerRadii =>
    refine Json.isFinite_of_map ?_ hv
    intro c hc
    obtain ⟨s, hs, rfl⟩ := Option.map_eq_some_iff.1 hc
    exact Corners.isFinite_toJson_ofSides hs
  | backgroundImage =>
    cases hv
    exact Json.isFinite_text _
  | backgroundMaterial => exact Json.isFinite_of_map (fun m _ => Json.isFinite_text m.name) hv
  | offset | position => exact Json.isFinite_of_map (fun p => Point.isFinite_toJson) hv
  | italic | underline | strikethrough =>
    cases hv
    exact Json.isFinite_flag _

/-- A field that is not set has no number. -/
theorem isFinite_encode_default (f : Field) {v : Json} (hv : f.encode f.default = some v) :
    v.IsFinite := by
  cases f with
  | italic | underline | strikethrough =>
    cases hv
    exact Json.isFinite_flag _
  | _ => cases hv

end Field

/-- With a provider of finite channels neither infinity nor NaN is ever among what is serialized. -/
theorem Style.isFinite_toJson_ofText {provider : Provider} (hprovider : provider.IsFinite)
    (t : Text) : (ofText provider t).toJson.IsFinite := by
  apply Json.IsFinite.object
  rw [members_eq_present]
  intro m hm
  obtain ⟨f, -, v, hv, rfl⟩ := Json.mem_present.1 hm
  have hget := get_ofDeclarations provider (Declaration.listOfText t) f
  rw [show (ofText provider t).get f = _ from hget] at hv
  cases hlast : Declaration.lastValue? f.property (Declaration.listOfText t) with
  | some value =>
    rw [hlast] at hv
    exact f.isFinite_encode_read hprovider value hv
  | none =>
    rw [hlast] at hv
    exact f.isFinite_encode_default hv

end Cascade
