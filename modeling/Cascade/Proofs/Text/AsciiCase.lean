import Cascade.Proofs.Text.Trimming
import Cascade.Text.Case

/-!
# The case of ASCII letters

Lowering the ASCII letters first makes no difference to a lowered text, as they are cased on both
sides of the case table.  Nor does it move a separator or a blank.
-/

namespace Cascade.Text

/-! ## 1. Characters -/

/-- A function that is the same on the twenty-six capitals and on their small letters is the same on
every character and its `Char.toLower`, which moves no other one. -/
theorem apply_toLower {α : Type} [DecidableEq α] {f : Char → α}
    (h : ((List.range' 0x41 26).all fun n => f (Char.ofNat n).toLower = f (Char.ofNat n)) = true)
    (c : Char) : f c.toLower = f c := by
  by_cases hcapital : c.val ≥ 'A'.val ∧ c.val ≤ 'Z'.val
  · have hfirst : 0x41 ≤ c.toNat := UInt32.le_iff_toNat_le.1 hcapital.1
    have hlast : c.toNat ≤ 0x5A := UInt32.le_iff_toNat_le.1 hcapital.2
    have hmem : c.toNat ∈ List.range' 0x41 26 := by
      rw [List.mem_range'_1]
      omega
    -- A capital is one of the characters that were checked.
    have heq := of_decide_eq_true (List.all_eq_true.1 h c.toNat hmem)
    rw [Char.ofNat_toNat] at heq
    exact heq
  · have hsame : c.toLower = c := dif_neg hcapital
    rw [hsame]

theorem toLower_eq_iff {sep : Char}
    (h : ((List.range' 0x41 26).all fun n =>
      decide ((Char.ofNat n).toLower = sep) = decide (Char.ofNat n = sep)) = true) (c : Char) :
    c.toLower = sep ↔ c = sep :=
  decide_eq_decide.1 (apply_toLower (f := fun c => decide (c = sep)) h c)

/-- No letter is blank. -/
theorem isBlank_toLower (c : Char) : isBlank c.toLower = isBlank c :=
  apply_toLower (by decide) c

theorem lowerChar_toLower (c : Char) : lowerChar c.toLower = lowerChar c :=
  apply_toLower (by decide +kernel) c

theorem contains_casedSpans_toLower (c : Char) :
    casedSpans.contains c.toLower = casedSpans.contains c :=
  apply_toLower (by decide +kernel) c

theorem contains_caseIgnorableSpans_toLower (c : Char) :
    caseIgnorableSpans.contains c.toLower = caseIgnorableSpans.contains c :=
  apply_toLower (by decide +kernel) c

/-! ## 2. Small letters -/

/-- Whether a cased letter comes next does not depend on its case. -/
theorem startsCased_map_toLower (t : Text) :
    startsCased (t.map Char.toLower) = startsCased t := by
  have hignorable : caseIgnorableSpans.contains ∘ Char.toLower = caseIgnorableSpans.contains :=
    funext contains_caseIgnorableSpans_toLower
  unfold startsCased
  rw [List.dropWhile_map, hignorable]
  cases t.dropWhile caseIgnorableSpans.contains with
  | nil => rfl
  | cons c rest => exact contains_casedSpans_toLower c

/-- So a sigma becomes the same small letter whatever the case of its neighbours. -/
theorem lowerBetween_map_toLower (before : Text) (c : Char) (after : Text) :
    lowerBetween (before.map Char.toLower) c.toLower (after.map Char.toLower) =
      lowerBetween before c after := by
  have hsigma : c.toLower = '\u03A3' ↔ c = '\u03A3' := toLower_eq_iff (by decide) c
  have hdotted : c.toLower = '\u0130' ↔ c = '\u0130' := toLower_eq_iff (by decide) c
  unfold lowerBetween
  rw [startsCased_map_toLower, startsCased_map_toLower, lowerChar_toLower]
  simp only [hsigma, hdotted]

theorem lowerAfter_map_toLower (before t : Text) :
    lowerAfter (before.map Char.toLower) (t.map Char.toLower) = lowerAfter before t := by
  -- By induction for every `before`, which each character joins once it is read.
  induction t generalizing before with
  | nil => rfl
  | cons c rest ih =>
    have hrest := ih (c :: before)
    rw [List.map_cons] at hrest ⊢
    rw [lowerAfter, lowerBetween_map_toLower, hrest]
    rfl

/-- Lowering the ASCII letters first changes nothing. -/
theorem lower_map_toLower (t : Text) : lower (t.map Char.toLower) = lower t :=
  lowerAfter_map_toLower [] t

/-! ## 3. Separators and blanks -/

section
variable {f : Char → Char} {sep : Char}

/-- A function that moves no separator may be applied before or after splitting. -/
theorem splitOn_map (h : ∀ c, f c = sep ↔ c = sep) (t : Text) :
    (t.map f).splitOn sep = (t.splitOn sep).map (List.map f) := by
  induction t with
  | nil => rfl
  | cons c rest ih =>
    by_cases hc : c = sep
    · rw [List.map_cons, (h c).2 hc, hc, splitOn_cons_self, splitOn_cons_self, ih]
      rfl
    · obtain ⟨piece, pieces, hrest, hcons⟩ := splitOn_cons_ne hc rest
      obtain ⟨piece', pieces', hrest', hcons'⟩ := splitOn_cons_ne (mt (h c).1 hc) (rest.map f)
      rw [hrest, List.map_cons] at ih
      rw [ih, List.cons.injEq] at hrest'
      obtain ⟨rfl, rfl⟩ := hrest'
      rw [List.map_cons, hcons', hcons, List.map_cons, List.map_cons]

theorem breakOn_map (h : ∀ c, f c = sep ↔ c = sep) (t : Text) :
    breakOn sep (t.map f) = (breakOn sep t).map (Prod.map (List.map f) (List.map f)) := by
  have hmem (u : Text) : sep ∈ u.map f ↔ sep ∈ u := by
    rw [List.mem_map]
    exact ⟨fun ⟨c, hc, heq⟩ => (h c).1 heq ▸ hc, fun hc => ⟨sep, hc, (h sep).2 rfl⟩⟩
  cases ht : breakOn sep t with
  | none =>
    rw [breakOn_eq_none_iff] at ht
    exact breakOn_eq_none_iff.2 (mt (hmem t).1 ht)
  | some sides =>
    obtain ⟨before, after⟩ := sides
    obtain ⟨rfl, hbefore⟩ := breakOn_eq_some_iff.1 ht
    refine breakOn_eq_some_iff.2 ⟨?_, mt (hmem before).1 hbefore⟩
    rw [List.map_append, List.map_cons, (h sep).2 rfl]

theorem trim_map (h : ∀ c, isBlank (f c) = isBlank c) (t : Text) :
    trim (t.map f) = (trim t).map f := by
  have hblank : isBlank ∘ f = isBlank := funext h
  unfold trim trimStart trimEnd
  rw [List.dropWhile_map, hblank, ← List.map_reverse, List.dropWhile_map, hblank,
    ← List.map_reverse]

end

end Cascade.Text
