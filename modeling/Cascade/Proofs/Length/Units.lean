import Cascade.Length
import Cascade.Proofs.Alternatives
import Cascade.Proofs.Number.Reading
import Cascade.Proofs.Text.Trimming

/-!
# Lengths and their units

A number shares no character with a unit and holds no blank, so a length ends in at most one unit,
and the units may be tried in any order.
-/

namespace Cascade.Length
open Text

/-! ## 1. Numbers against blanks and units -/

section
variable {number : Text} {x : Binary64} {c : Char}

theorem isBlank_eq_false_of_isDigit (h : isDigit c = true) : isBlank c = false := by
  have hruns : ∀ z ∈ digitZeros, ∀ v : Fin 10, isBlank (Char.ofNat (z + v)) = false := by
    decide +kernel
  obtain ⟨d, rfl⟩ := Digit.exists_char_eq h
  exact hruns d.zero d.zero_mem ⟨d.value, d.value_lt⟩

/-- Digits of any script, signs, points and marks of exponents are not blank. -/
theorem isBlank_eq_false_of_mem_number (h : Binary64.ofText? number = some x) (hc : c ∈ number) :
    isBlank c = false := by
  rcases Binary64.isDigit_or_mem_marks h hc with hdigit | hmark
  · exact isBlank_eq_false_of_isDigit hdigit
  · have hmarks : Spelling.marks.all (isBlank · = false) = true := by decide
    exact of_decide_eq_true (List.all_eq_true.1 hmarks c hmark)

theorem isBlank_eq_false_of_mem_unit {unit : Text} (hunit : unit ∈ units) (hc : c ∈ unit) :
    isBlank c = false := by
  have hunits : ∀ unit ∈ units, unit.all (isBlank · = false) = true := by decide
  exact of_decide_eq_true (List.all_eq_true.1 (hunits unit hunit) c hc)

/-- No character of a number stands in a unit. -/
theorem not_mem_unit_of_mem_number {unit : Text} (h : Binary64.ofText? number = some x)
    (hc : c ∈ number) (hunit : unit ∈ units) : c ∉ unit := by
  have hunits : ∀ unit ∈ units,
      unit.all (fun c => isDigit c = false ∧ c ∉ Spelling.marks) = true := by decide
  intro hmem
  obtain ⟨hdigit, hmark⟩ := of_decide_eq_true (List.all_eq_true.1 (hunits unit hunit) c hmem)
  rcases Binary64.isDigit_or_mem_marks h hc with h | h
  · rw [hdigit] at h
    cases h
  · exact hmark h

theorem trim_number (h : Binary64.ofText? number = some x) : trim number = number :=
  trim_of_forall_not_isBlank fun _ => isBlank_eq_false_of_mem_number h

end

/-! ## 2. Taking a unit off -/

section
variable {t unit unit' : Text} {x : Binary64}

def IsBeforeUnit (number unit t : Text) : Prop :=
  ∃ before after, isBlankText before = true ∧ isBlankText after = true ∧
    t = before ++ (number ++ (after ++ unit))

/-- What is trimmed off around the number is blank, and the number itself is not trimmed. -/
theorem beforeUnit?_eq_some_iff :
    beforeUnit? t unit = some x ↔
      ∃ number, IsBeforeUnit number unit t ∧ Binary64.ofText? number = some x := by
  unfold beforeUnit?
  rw [Option.bind_eq_some_iff]
  constructor
  · rintro ⟨rest, hrest, hx⟩
    obtain ⟨before, after, hbefore, hafter, htrim⟩ := exists_eq_append_trim rest
    refine ⟨trim rest, ⟨before, after, hbefore, hafter, ?_⟩, hx⟩
    calc t = rest ++ unit := (List.isSuffixOf?_eq_some_iff_append_eq.1 hrest).symm
      _ = before ++ (trim rest ++ after) ++ unit := by rw [← htrim]
      _ = before ++ (trim rest ++ (after ++ unit)) := by simp
  · rintro ⟨number, ⟨before, after, hbefore, hafter, rfl⟩, hx⟩
    refine ⟨before ++ (number ++ after), ?_, ?_⟩
    · rw [List.isSuffixOf?_eq_some_iff_append_eq]
      simp
    · rw [trim_append_left hbefore, trim_append_right hafter, trim_number hx, hx]

theorem suffix_of_beforeUnit? (h : beforeUnit? t unit = some x) : unit <:+ t := by
  obtain ⟨number, ⟨before, after, -, -, rfl⟩, -⟩ := beforeUnit?_eq_some_iff.1 h
  exact ⟨before ++ (number ++ after), by simp⟩

theorem exists_mem_unit (hunit : unit ∈ units) : ∃ c, c ∈ unit := by
  have hne : ∀ unit ∈ units, unit ≠ [] := by decide
  exact List.exists_mem_of_ne_nil unit (hne unit hunit)

/-- What ends in a unit is no number. -/
theorem ofText?_eq_none_of_suffix (hunit : unit ∈ units) (h : unit <:+ t) :
    Binary64.ofText? t = none := by
  obtain ⟨c, hc⟩ := exists_mem_unit hunit
  by_contra hx
  obtain ⟨x, hx⟩ := Option.ne_none_iff_exists'.1 hx
  exact not_mem_unit_of_mem_number hx (h.subset hc) hunit hc

/-- No unit is the end of another one. -/
theorem eq_of_suffix (hunit : unit ∈ units) (hunit' : unit' ∈ units) (h : unit <:+ t)
    (h' : unit' <:+ t) : unit = unit' := by
  have hunits : ∀ u ∈ units, ∀ u' ∈ units, u <:+ u' → u = u' := by decide
  rcases List.suffix_or_suffix_of_suffix h h' with h | h
  · exact hunits unit hunit unit' hunit' h
  · exact (hunits unit' hunit' unit hunit h).symm

/-- In front of the unit there are only blanks and a number. -/
theorem not_mem_front_of_mem_unit {front : Text} {c : Char}
    (h : beforeUnit? (front ++ unit) unit = some x) (hunit' : unit' ∈ units) (hc : c ∈ unit') :
    c ∉ front := by
  obtain ⟨number, ⟨before, after, hbefore, hafter, heq⟩, hx⟩ := beforeUnit?_eq_some_iff.1 h
  have hfront : front = before ++ (number ++ after) := by
    have hcancel : front ++ unit = (before ++ (number ++ after)) ++ unit := by simp [heq]
    exact List.append_cancel_right hcancel
  have hc' := isBlank_eq_false_of_mem_unit hunit' hc
  rw [hfront]
  intro hmem
  rcases List.mem_append.1 hmem with hmem | hmem
  · exact not_mem_of_isBlankText hc' hbefore hmem
  · rcases List.mem_append.1 hmem with hmem | hmem
    · exact not_mem_unit_of_mem_number hx hmem hunit' hc
    · exact not_mem_of_isBlankText hc' hafter hmem

/-- A text ends in at most one unit. -/
theorem exclusive_units (t : Text) : Exclusive (beforeUnit? t) units := by
  have hnodup : units.Nodup := by decide
  refine List.Pairwise.imp_of_mem ?_ hnodup
  intro unit unit' hunit hunit' hne
  by_contra hboth
  rw [not_or] at hboth
  obtain ⟨x, hx⟩ := Option.ne_none_iff_exists'.1 hboth.1
  obtain ⟨y, hy⟩ := Option.ne_none_iff_exists'.1 hboth.2
  exact hne (eq_of_suffix hunit hunit' (suffix_of_beforeUnit? hx) (suffix_of_beforeUnit? hy))

/-- So the first unit that applies is the only one. -/
theorem withUnit?_eq_some_iff :
    withUnit? t = some x ↔ ∃ unit ∈ units, beforeUnit? t unit = some x := by
  constructor
  · exact List.exists_of_findSome?_eq_some
  · rintro ⟨unit, hunit, hx⟩
    -- The unit is moved to the front, where it decides.
    rw [withUnit?, (exclusive_units t).findSome?_eq_of_perm (List.perm_cons_erase hunit),
      List.findSome?_cons, hx]

theorem ofText?_eq_none_of_withUnit? (h : withUnit? t = some x) : Binary64.ofText? t = none := by
  obtain ⟨unit, hunit, hx⟩ := withUnit?_eq_some_iff.1 h
  exact ofText?_eq_none_of_suffix hunit (suffix_of_beforeUnit? hx)

/-- In front of the last unit only a number may stand, so another unit is one too many. -/
theorem ofText?_eq_none_of_two_units (hunit : unit ∈ units) (hunit' : unit' ∈ units)
    (front middle : Text) : ofText? (front ++ (unit ++ (middle ++ unit'))) = none := by
  have heq : front ++ (unit ++ (middle ++ unit')) = (front ++ (unit ++ middle)) ++ unit' := by simp
  have hsuffix := List.suffix_append (front ++ (unit ++ middle)) unit'
  obtain ⟨c, hc⟩ := exists_mem_unit hunit
  rw [heq]
  unfold ofText?
  rw [Option.or_eq_none_iff]
  -- The text ends in a unit, so it is no number; and the unit that it ends in is the last one.
  refine ⟨?_, ofText?_eq_none_of_suffix hunit' hsuffix⟩
  by_contra hsome
  obtain ⟨x, hx⟩ := Option.ne_none_iff_exists'.1 hsome
  obtain ⟨last, hlast, hx⟩ := withUnit?_eq_some_iff.1 hx
  obtain rfl := eq_of_suffix hlast hunit' (suffix_of_beforeUnit? hx) hsuffix
  exact not_mem_front_of_mem_unit hx hunit hc (by simp [hc])

theorem ofText?_eq_some_iff :
    ofText? t = some x ↔ Binary64.ofText? t = some x ∨ withUnit? t = some x := by
  unfold ofText?
  cases h : withUnit? t with
  | none => simp
  | some y => simp [ofText?_eq_none_of_withUnit? h]

end

/-! ## 3. Reading a length -/

/-- **A unit changes nothing.**  A length is a number, or a number with blanks around it and one
unit behind it, and it is read as that number whichever unit it is.  No length has two units, and
the units may be tried in any order. -/
theorem ofText?_ignores_unit :
    (∀ (t : Text) (x : Binary64), ofText? t = some x ↔
      Binary64.ofText? t = some x ∨
        ∃ number, ∃ unit ∈ units, IsBeforeUnit number unit t ∧
          Binary64.ofText? number = some x) ∧
    (∀ (number t : Text), ∀ unit ∈ units, IsBeforeUnit number unit t →
      (Binary64.ofText? number).isSome = true →
        ofText? t = ofText? number ∧ ofText? number = Binary64.ofText? number) ∧
    (∀ front middle : Text, ∀ unit ∈ units, ∀ unit' ∈ units,
      ofText? (front ++ (unit ++ (middle ++ unit'))) = none) ∧
    ∀ order : List Text, units.Perm order → ∀ t : Text,
      (order.findSome? (beforeUnit? t)).or (Binary64.ofText? t) = ofText? t := by
  have hread (t : Text) (x : Binary64) : ofText? t = some x ↔
      Binary64.ofText? t = some x ∨
        ∃ number, ∃ unit ∈ units, IsBeforeUnit number unit t ∧
          Binary64.ofText? number = some x := by
    rw [ofText?_eq_some_iff, withUnit?_eq_some_iff]
    simp only [beforeUnit?_eq_some_iff]
    grind
  refine ⟨hread, ?_, ?_, ?_⟩
  · intro number t unit hunit hbefore hx
    obtain ⟨x, hx⟩ := Option.isSome_iff_exists.1 hx
    have hnumber : ofText? number = some x := (hread number x).2 (Or.inl hx)
    have ht : ofText? t = some x := (hread t x).2 (Or.inr ⟨number, unit, hunit, hbefore, hx⟩)
    exact ⟨ht.trans hnumber.symm, hnumber.trans hx.symm⟩
  · intro front middle unit hunit unit' hunit'
    exact ofText?_eq_none_of_two_units hunit hunit' front middle
  · intro order horder t
    rw [← (exclusive_units t).findSome?_eq_of_perm horder]
    rfl

theorem ofText?_between_blanks :
    IsBeforeUnit "1.5".toList "pt".toList " 1.5 pt".toList ∧
      ofText? " 1.5 pt".toList = ofText? "1.5".toList ∧ ofText? "1.5 pxpt".toList = none ∧
      (["pt".toList, "px".toList].findSome? (beforeUnit? " 1.5 pt".toList)).or
        (Binary64.ofText? " 1.5 pt".toList) = ofText? " 1.5 pt".toList := by
  have hbefore : IsBeforeUnit "1.5".toList "pt".toList " 1.5 pt".toList :=
    ⟨[' '], [' '], by decide, by decide, by decide⟩
  have hnumber : (Binary64.ofText? "1.5".toList).isSome = true := by decide +kernel
  obtain ⟨-, hunit, htwice, horder⟩ := ofText?_ignores_unit
  exact ⟨hbefore, (hunit _ _ "pt".toList (by decide) hbefore hnumber).1,
    htwice "1.5 ".toList [] "px".toList (by decide) "pt".toList (by decide),
    horder _ (by decide) _⟩

end Cascade.Length
