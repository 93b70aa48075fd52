import Cascade.Proofs.Number.Spelling

/-!
# Reading a number

A text is read as the double nearest to the number that it spells, however that is spelt.
-/

namespace Cascade.Binary64

/-- Of a spelling only its number and its sign count. -/
theorem ofText?_text (s : Spelling) :
    ofText? s.text = if |s.value| < overflow then some s.numeral.toBinary64 else none := by
  unfold ofText?
  rw [Numeral.ofText?_text, ← s.toRat_numeral]
  show (if s.numeral.toBinary64.isFinite = true then _ else _) = _
  simp only [Numeral.isFinite_toBinary64_iff]

theorem exists_spelling {t : Text} {x : Binary64} (h : ofText? t = some x) :
    ∃ s : Spelling, s.text = t := by
  obtain ⟨n, hn, -⟩ := Option.bind_eq_some_iff.1 h
  obtain ⟨s, hs, -⟩ := Numeral.ofText?_eq_some_iff.1 hn
  exact ⟨s, hs⟩

/-- A number is written in digits and a few marks. -/
theorem isDigit_or_mem_marks {t : Text} {x : Binary64} {c : Char} (h : ofText? t = some x)
    (hc : c ∈ t) : Text.isDigit c = true ∨ c ∈ Spelling.marks := by
  obtain ⟨s, rfl⟩ := exists_spelling h
  exact s.isDigit_or_mem_marks hc

theorem isNearest_spelling {s : Spelling} (h : |s.value| < overflow) :
    IsNearest s.value s.numeral.toBinary64 := by
  rw [← s.toRat_numeral] at h ⊢
  exact s.numeral.isNearest_toBinary64 h

/-- **Reading a number rounds it to the nearest double.**  The texts that are read are those that
spell a number below the overflow bound, they are read as the double nearest to it, a zero having
the sign that is written, and two spellings of one number with the same sign are read alike. -/
theorem ofText?_eq_some_iff_isNearest :
    (∀ (t : Text) (x : Binary64), ofText? t = some x ↔
      ∃ s : Spelling, s.text = t ∧ IsNearest s.value x ∧ x.isNegative = s.sign.isNegative) ∧
    (∀ t : Text, (ofText? t).isSome = true ↔
      ∃ s : Spelling, s.text = t ∧ |s.value| < overflow) ∧
    ∀ s s' : Spelling, s.value = s'.value → s.sign.isNegative = s'.sign.isNegative →
      ofText? s.text = ofText? s'.text := by
  have hsign (s : Spelling) : s.numeral.toBinary64.isNegative = s.sign.isNegative :=
    s.numeral.isNegative_toBinary64
  refine ⟨?_, ?_, ?_⟩
  · intro t x
    constructor
    · intro h
      obtain ⟨s, rfl⟩ := exists_spelling h
      rw [ofText?_text] at h
      split at h
      · rename_i hlt
        rw [← Option.some.inj h]
        exact ⟨s, rfl, isNearest_spelling hlt, hsign s⟩
      · cases h
    · rintro ⟨s, rfl, hnearest, hnegative⟩
      -- There is only one nearest double of each sign.
      have hrounded := isNearest_spelling hnearest.abs_lt
      rw [ofText?_text, if_pos hnearest.abs_lt,
        hrounded.eq hnearest ((hsign s).trans hnegative.symm)]
  · intro t
    constructor
    · intro h
      obtain ⟨x, hx⟩ := Option.isSome_iff_exists.1 h
      obtain ⟨s, rfl⟩ := exists_spelling hx
      refine ⟨s, rfl, ?_⟩
      by_contra hlarge
      rw [ofText?_text, if_neg hlarge] at hx
      cases hx
    · rintro ⟨s, rfl, hlt⟩
      rw [ofText?_text, if_pos hlt]
      rfl
  · intro s s' hvalue hnegative
    rw [ofText?_text, ofText?_text, ← hvalue]
    split
    · rename_i hlt
      have hnearest := isNearest_spelling (hvalue ▸ hlt)
      rw [← hvalue] at hnearest
      have hsame := (hsign s).trans (hnegative.trans (hsign s').symm)
      rw [(isNearest_spelling hlt).eq hnearest hsame]
    · rfl

/-- Digits of several scripts, leading and final zeros, and an exponent, on either side. -/
theorem ofText?_mixed_scripts :
    let d (start value : Nat) (hstart : start ∈ Text.digitZeros) (hvalue : value < 10) : Digit :=
      ⟨start, value, hstart, hvalue⟩
    let arabic : Digit := d 0x0660 3 (by decide) (by decide)
    let s : Spelling := ⟨.plus, .whole [d 0x30 0 (by decide) (by decide), arabic] (by simp)
      (some [d 0x30 5 (by decide) (by decide), d 0x0966 0 (by decide) (by decide)]), none⟩
    let s' : Spelling := ⟨.absent, .fraction [arabic, d 0x30 5 (by decide) (by decide)] (by simp),
      some ⟨'E', .plus, [d 0x30 1 (by decide) (by decide)], by decide, by simp⟩⟩
    s.value = s'.value ∧ s.sign.isNegative = s'.sign.isNegative ∧
      ofText? "+0٣.5०".toList = ofText? ".٣5E+1".toList := by
  intro d arabic s s'
  have hvalue : s.value = s'.value := by decide +kernel
  have htext : s.text = "+0٣.5०".toList := by decide +kernel
  have htext' : s'.text = ".٣5E+1".toList := by decide +kernel
  refine ⟨hvalue, rfl, ?_⟩
  rw [← htext, ← htext']
  exact ofText?_eq_some_iff_isNearest.2.2 s s' hvalue rfl

end Cascade.Binary64
