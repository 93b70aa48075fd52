import Cascade.Proofs.Color.Grammar

/-!
# The hexadecimal text of a color that was read

A color that was read has a text, and the text is read as a color again.  There is one exception: a
component that is the greatest double of either sign, whose channel has no octet.
-/

namespace Cascade
open Text

namespace Rgba

/-! ## 1. The pair of digits of a channel -/

section
variable {x : Binary64} {n : Nat}

/-- What has an octet is finite, and its octet is clamped. -/
theorem exists_eq_of_octet (h : octet x = .ok n) :
    ∃ negative units grid, x = .finite negative units grid ∧
      n = if negative then 0 else min (outOf255 units) 255 := by
  cases x with
  | finite negative units grid =>
    rw [octet_finite] at h
    split at h
    · exact ⟨negative, units, grid, rfl, (Except.ok.inj h).symm⟩
    · cases h
  | infinite negative => cases h
  | nan => cases h

theorem octet_le (h : octet x = .ok n) : n ≤ 255 := by
  obtain ⟨negative, units, grid, -, rfl⟩ := exists_eq_of_octet h
  split
  · exact Nat.zero_le 255
  · exact Nat.min_le_right _ 255

/-- Below zero the clamp gives 0. -/
theorem octet_of_neg (h : octet x = .ok n) (hneg : x.toRat < 0) : n = 0 := by
  obtain ⟨negative, units, grid, rfl, rfl⟩ := exists_eq_of_octet h
  cases negative with
  | true => rfl
  | false =>
    have hnonneg : (0 : ℚ) ≤ units / unitsPerOne :=
      div_nonneg (Nat.cast_nonneg _) (Nat.cast_nonneg _)
    exact absurd hneg (not_lt.2 hnonneg)

/-- Above one the clamp gives 255. -/
theorem octet_of_one_lt (h : octet x = .ok n) (hlarge : 1 < x.toRat) : n = 255 := by
  obtain ⟨negative, units, grid, rfl, rfl⟩ := exists_eq_of_octet h
  have hpos := cast_unitsPerOne_pos
  have hquotient : (0 : ℚ) ≤ units / unitsPerOne :=
    div_nonneg (Nat.cast_nonneg _) (Nat.cast_nonneg _)
  cases negative with
  | true =>
    have hnonpos : (Binary64.finite true units grid).toRat ≤ 0 := neg_nonpos.2 hquotient
    linarith
  | false =>
    have hunits : (1 : ℚ) < units / unitsPerOne := hlarge
    rw [one_lt_div hpos, Nat.cast_lt] at hunits
    have hfull := outOf255_roundUnits (le_refl 255)
    rw [roundUnits_full] at hfull
    have hle := outOf255_mono hunits.le
    rw [if_neg Bool.false_ne_true]
    omega

end

/-- Holds for the two small digits of a channel, which is clamped at both ends. -/
structure IsPair (x : Binary64) (pair : Text) : Prop where
  length_eq : pair.length = 2
  mem_small : ∀ d ∈ pair, d ∈ HexDigit.small
  of_neg : x.toRat < 0 → pair = ['0', '0']
  of_one_lt : 1 < x.toRat → pair = ['f', 'f']

theorem isPair_hexDigits {x : Binary64} {n : Nat} (h : octet x = .ok n) :
    IsPair x (hexDigits 2 n) where
  length_eq := length_hexDigits 2 n
  mem_small := by
    intro d hd
    have hpair : d ∈ [hexDigit (n / 16 % 16), hexDigit (n % 16)] := hd
    rcases List.mem_pair.1 hpair with rfl | rfl
    · exact HexDigit.hexDigit_mem_small (Nat.mod_lt _ (by decide))
    · exact HexDigit.hexDigit_mem_small (Nat.mod_lt _ (by decide))
  of_neg := by
    intro hneg
    rw [octet_of_neg h hneg]
    rfl
  of_one_lt := by
    intro hlarge
    rw [octet_of_one_lt h hlarge]
    rfl

/-! ## 2. The text of a color -/

theorem isSome_ofOctetList?_iff {ns : List Nat} :
    (ofOctetList? ns).isSome = true ↔ ns.length = 3 ∨ ns.length = 4 := by
  unfold ofOctetList?
  split
  · exact iff_of_true rfl (Or.inl rfl)
  · exact iff_of_true rfl (Or.inr rfl)
  · rename_i hthree hfour
    refine iff_of_false Bool.false_ne_true ?_
    rintro (hlength | hlength)
    · obtain ⟨r, g, b, rfl⟩ := List.length_eq_three.1 hlength
      exact hthree r g b rfl
    · obtain ⟨r, g, b, a, rfl⟩ := List.length_eq_four.1 hlength
      exact hfour r g b a rfl

/-- The text of a color is a pair of digits for each channel that is shown. -/
theorem exists_pairs_of_hex {c : Rgba} {t : Text} (h : c.hex = .ok t) :
    ∃ pairs : List Text, t = '#' :: pairs.flatten ∧ (ofHex? t).isSome = true ∧
      List.Forall₂ IsPair
        ([c.red, c.green, c.blue] ++ if c.opacity = .one then [] else [c.opacity]) pairs := by
  obtain ⟨octets, hoctets, rfl⟩ := hex_eq_ok_iff.1 h
  rw [shownChannels_eq] at hoctets
  refine ⟨octets.map (hexDigits 2), by rw [List.flatMap_def], ?_, ?_⟩
  · have hbounded : List.Forall₂ (fun n x => n ≤ 255 ∧ octet x = .ok n) octets _ :=
      hoctets.flip.imp fun n x hx => ⟨octet_le hx, hx⟩
    rw [ofHex?_hexDigits ((List.forall₂_and_left octets _).1 hbounded).1, isSome_ofOctetList?_iff,
      ← hoctets.length_eq]
    by_cases hone : c.opacity = .one
    · rw [if_pos hone]
      exact Or.inl rfl
    · rw [if_neg hone]
      exact Or.inr rfl
  · rw [List.forall₂_map_right_iff]
    exact hoctets.imp fun x n => isPair_hexDigits

/-! ## 3. Which colors have a text -/

theorem shownChannels_ofParts (r g b : Component) :
    (ofParts r g b).shownChannels = [r, g, b].map fun x => x.value.divNat 255 := by
  rw [shownChannels_eq]
  unfold ofParts
  dsimp only
  rw [if_pos rfl]
  rfl

/-- Three components have a text unless the greatest double is among them. -/
theorem hex_ofParts (r g b : Component) :
    (∀ x ∈ [r, g, b].map Component.value, ¬ x.IsGreatest) ∧ (∃ t, (ofParts r g b).hex = .ok t) ∨
      (∃ x ∈ [r, g, b].map Component.value, x.IsGreatest) ∧
        (ofParts r g b).hex = .error .infinite := by
  have hshown := shownChannels_ofParts r g b
  cases h : (ofParts r g b).hex with
  | ok t =>
    refine Or.inl ⟨?_, t, rfl⟩
    rw [List.forall_mem_map]
    intro x hx hgreatest
    have hmem : x.value.divNat 255 ∈ (ofParts r g b).shownChannels := by
      rw [hshown]
      exact List.mem_map_of_mem hx
    obtain ⟨n, hn⟩ := exists_octet_of_hex h hmem
    rcases octet_divNat x.isFinite with ⟨-, hinfinite⟩ | ⟨hnot, -⟩
    · rw [hn] at hinfinite
      cases hinfinite
    · exact hnot hgreatest
  | error e =>
    obtain ⟨y, hy, herror⟩ := exists_of_hex_eq_error h
    -- The channel that is refused comes from a component, which must be the greatest double.
    rw [hshown] at hy
    obtain ⟨x, hx, rfl⟩ := List.mem_map.1 hy
    rcases octet_divNat x.isFinite with ⟨hgreatest, hinfinite⟩ | ⟨-, n, hok⟩
    · rw [herror] at hinfinite
      rw [Except.error.inj hinfinite]
      exact Or.inr ⟨⟨x.value, List.mem_map_of_mem hx, hgreatest⟩, rfl⟩
    · rw [herror] at hok
      cases hok

theorem exists_hex_of_isOk {c : Rgba} (h : c.hex.isOk = true) : ∃ t, c.hex = .ok t := by
  cases hc : c.hex with
  | ok t => exact ⟨t, rfl⟩
  | error e =>
    rw [hc] at h
    cases h

theorem exists_hex_of_mem_named {name : Text} {c : Rgba} (h : (name, c) ∈ named) :
    ∃ t, c.hex = .ok t := by
  have hnamed : ∀ m ∈ named, m.2.hex.isOk = true := by decide +kernel
  exact exists_hex_of_isOk (hnamed (name, c) h)

section
variable {name : Text} {c : Rgba}

theorem exists_hex_of_palette {p : Palette} (hp : ∀ m ∈ p.colors, m.2.hex.isOk = true)
    (h : (Provider.palette p).resolve name = some (.rgba c)) : ∃ t, c.hex = .ok t := by
  obtain ⟨color, hfound, hcolor⟩ := Option.map_eq_some_iff.1 h
  rw [Color.rgba.inj hcolor] at hfound
  exact exists_hex_of_isOk (hp (name, c) (mem_of_lookup_eq_some hfound))

/-- Every color of the built-in palettes has a text. -/
theorem exists_hex_of_resolve {p : Platform} (h : p.provider.resolve name = some (.rgba c)) :
    ∃ t, c.hex = .ok t := by
  cases p with
  | deferred =>
    obtain ⟨token, -, hcolor⟩ := Option.map_eq_some_iff.1 h
    cases hcolor
  | uikit => exact exists_hex_of_palette (by decide +kernel) h
  | appkit => exact exists_hex_of_palette (by decide +kernel) h
  | plain => cases h

end

end Rgba

/-- Among the spellings only components can lack a text. -/
theorem ColorSpelling.hex_of_color? {p : Platform} {s : ColorSpelling} {c : Rgba}
    (h : s.color? p.provider = some (.rgba c)) :
    (∀ x ∈ s.numbers, ¬ x.IsGreatest) ∧ (∃ t, c.hex = .ok t) ∨
      (∃ x ∈ s.numbers, x.IsGreatest) ∧ c.hex = .error .infinite := by
  have hnone : ∀ x ∈ ([] : List Binary64), ¬ x.IsGreatest := fun _ hx => absurd hx List.not_mem_nil
  cases s with
  | name t color hmem =>
    rw [Color.rgba.inj (Option.some.inj h)] at hmem
    exact Or.inl ⟨hnone, Rgba.exists_hex_of_mem_named hmem⟩
  | token k hyphens => exact Or.inl ⟨hnone, Rgba.exists_hex_of_resolve h⟩
  | octets r g b a blank hblank =>
    rw [← Color.rgba.inj (Option.some.inj h)]
    have hopacity : (a.map HexOctet.value).getD 255 ≤ 255 := by
      cases a with
      | none => exact le_refl 255
      | some a => exact a.value_le
    exact Or.inl ⟨hnone, _, Rgba.hex_ofOctets r.value_le g.value_le b.value_le hopacity⟩
  | components r g b closed blank hblank =>
    rw [← Color.rgba.inj (Option.some.inj h)]
    exact Rgba.hex_ofParts r g b

namespace Color

/-- **The text of a color that was read.**  On every platform, a color that was read from a text
without the greatest double among its components has a text of three or four pairs of small digits,
each showing its channel clamped, and the text is read as a color.  With the greatest double among
its components it has none. -/
theorem hex_of_ofText? (p : Platform) (t : Text) (c : Rgba)
    (h : ofText? p.provider t = some (.rgba c)) :
    (∃ s : ColorSpelling, s.text = t) ∧ ∀ s : ColorSpelling, s.text = t →
      ((∀ x ∈ s.numbers, ¬ x.IsGreatest) →
        ∃ pairs : List Text, c.hex = .ok ('#' :: pairs.flatten) ∧
          List.Forall₂ Rgba.IsPair
            ([c.red, c.green, c.blue] ++ if c.opacity = .one then [] else [c.opacity]) pairs ∧
          (Rgba.ofHex? ('#' :: pairs.flatten)).isSome = true) ∧
      ((∃ x ∈ s.numbers, x.IsGreatest) → c.hex = .error .infinite) := by
  refine ⟨exists_spelling h, ?_⟩
  intro s htext
  rw [← htext, ofText?_text] at h
  rcases s.hex_of_color? h with ⟨hnone, t, hhex⟩ | ⟨⟨y, hy, hgreatest⟩, hinfinite⟩
  · obtain ⟨pairs, rfl, hread, hpairs⟩ := Rgba.exists_pairs_of_hex hhex
    refine ⟨fun _ => ⟨pairs, hhex, hpairs, hread⟩, ?_⟩
    rintro ⟨x, hx, hgreatest⟩
    exact absurd hgreatest (hnone x hx)
  · exact ⟨fun hnone => absurd hgreatest (hnone y hy), fun _ => hinfinite⟩

/-- Right below the greatest double and at it. -/
theorem hex_of_ofText?_greatest :
    (∃ c pairs, ofText? Platform.uikit.provider "rgb(1.7976931348623155e308,-1,256".toList =
        some (.rgba c) ∧ c.hex = .ok ('#' :: pairs.flatten) ∧
        List.Forall₂ Rgba.IsPair
          ([c.red, c.green, c.blue] ++ if c.opacity = .one then [] else [c.opacity]) pairs) ∧
      ∃ c, ofText? Platform.uikit.provider "rgb(1.7976931348623157e308,0,0)".toList =
        some (.rgba c) ∧ c.hex = .error .infinite := by
  let read (t : Text) : List (Option Binary64) :=
    ((Rgba.components t).splitOn ',').map fun part => Binary64.ofText? (trim part)
  let greatest (negative : Bool) : Binary64 :=
    .finite negative Binary64.greatestUnits Binary64.isGrid_greatestUnits
  have hcolor (t : Text) (hmarked : isMarked t = true) (h : (literal? t).isSome = true) :
      ∃ c, ofText? Platform.uikit.provider t = some (.rgba c) := by
    obtain ⟨c, hc⟩ := Option.isSome_iff_exists.1 h
    rw [ofText?_of_isMarked hmarked, hc]
    exact ⟨c, rfl⟩
  have hnumbers {s : ColorSpelling} {t : Text} (hs : s.text = t)
      (ht : ColorKind.ofText t = .components) (x : Binary64) : x ∈ s.numbers ↔ some x ∈ read t := by
    rw [ColorSpelling.mem_numbers_iff (by rw [← s.kind_ofText_text, hs, ht]), hs]
  constructor
  · obtain ⟨c, hc⟩ := hcolor "rgb(1.7976931348623155e308,-1,256".toList (by decide)
      (by decide +kernel)
    obtain ⟨⟨s, hs⟩, hall⟩ := hex_of_ofText? .uikit _ c hc
    have hbelow : ∀ x ∈ s.numbers, ¬ x.IsGreatest := by
      intro x hx hgreatest
      obtain ⟨negative, rfl⟩ := Binary64.isGreatest_iff.1 hgreatest
      have hnot : ∀ negative, some (greatest negative) ∉
          read "rgb(1.7976931348623155e308,-1,256".toList := by decide +kernel
      exact hnot negative ((hnumbers hs (by decide +kernel) _).1 hx)
    obtain ⟨pairs, hhex, hpairs, -⟩ := (hall s hs).1 hbelow
    exact ⟨c, pairs, hc, hhex, hpairs⟩
  · obtain ⟨c, hc⟩ := hcolor "rgb(1.7976931348623157e308,0,0)".toList (by decide)
      (by decide +kernel)
    obtain ⟨⟨s, hs⟩, hall⟩ := hex_of_ofText? .uikit _ c hc
    have hread : some (greatest false) ∈ read "rgb(1.7976931348623157e308,0,0)".toList := by
      decide +kernel
    have hmem := (hnumbers hs (by decide +kernel) _).2 hread
    exact ⟨c, hc, (hall s hs).2 ⟨_, hmem, Binary64.isGreatest_iff.2 ⟨false, rfl⟩⟩⟩

end Color
end Cascade
