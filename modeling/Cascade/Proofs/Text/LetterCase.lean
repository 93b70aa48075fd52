import Cascade.Proofs.Text.Trimming
import Cascade.Text.Case

/-!
# Small letters

Lowering a text twice is lowering it once, and it brings no separator into the text and no blank to
its ends.
-/

namespace Cascade.Text

/-! ## 1. The case table -/

namespace CaseRun

def firstImage (r : CaseRun) : Nat := (r.first + r.shift).toNat

def lastImage (r : CaseRun) : Nat := (r.last + r.shift).toNat

/-- The images of a run are not moved by the other run: they lie on one side of it, or between its
code points where these are every second one. -/
def avoids (r other : CaseRun) : Bool :=
  Nat.blt r.lastImage other.first || Nat.blt other.last r.firstImage ||
    (other.stride == 2 && (r.stride == 2 || r.first == r.last) &&
      (r.firstImage + other.first) % 2 == 1)

def clear (r : CaseRun) (spans : Spans) : Bool :=
  Nat.blt r.lastImage 0x110000 &&
    spans.all fun s => Nat.blt r.lastImage s.1 || Nat.blt s.2 r.firstImage

theorem image?_eq_some_iff {r : CaseRun} {n m : Nat} :
    r.image? n = some m ↔
      r.first ≤ n ∧ n ≤ r.last ∧ (n - r.first) % r.stride = 0 ∧ m = (n + r.shift).toNat := by
  unfold image?
  split
  · rename_i h
    rw [Option.some.injEq]
    exact ⟨fun heq => ⟨h.1, h.2.1, h.2.2, heq.symm⟩, fun hm => hm.2.2.2.symm⟩
  · rename_i h
    exact iff_of_false (by simp) fun hm => h ⟨hm.1, hm.2.1, hm.2.2.1⟩

theorem image?_mem_images {r : CaseRun} {n m : Nat} (h : r.image? n = some m) :
    r.firstImage ≤ m ∧ m ≤ r.lastImage := by
  obtain ⟨hfirst, hlast, -, hm⟩ := image?_eq_some_iff.1 h
  unfold firstImage lastImage
  omega

/-- An image that avoids a run is not moved by it. -/
theorem image?_eq_none_of_avoids {r other : CaseRun} (h : r.avoids other = true)
    (hpos : 0 < r.firstImage) {n m : Nat} (hm : r.image? n = some m) :
    other.image? m = none := by
  rw [Option.eq_none_iff_forall_ne_some]
  intro k hk
  obtain ⟨hfirst, hlast, hstride, himage⟩ := image?_eq_some_iff.1 hm
  obtain ⟨hfirst', hlast', hstride', -⟩ := image?_eq_some_iff.1 hk
  have hbounds := image?_mem_images hm
  simp only [avoids, Bool.or_eq_true, Bool.and_eq_true, Nat.blt_eq, beq_iff_eq] at h
  rcases h with (h | h) | ⟨⟨hother, hstep⟩, hparity⟩
  · omega
  · omega
  · -- The images and the other run's code points have different parities.
    have hfirstImage : (r.firstImage : Int) = r.first + r.shift := by
      unfold firstImage at hpos ⊢
      omega
    have hsame : (n - r.first) % 2 = 0 := by
      rcases hstep with hstep | hstep
      · rw [hstep] at hstride
        exact hstride
      · omega
    rw [hother] at hstride'
    omega

end CaseRun

/-- Code points that lowering never leads to: those of ASCII before the small letters, blanks, the
dotted capital i, and what is no character. -/
def neverImages : Spans :=
  [(0, 0x60), (0x80, 0xBF), (0x130, 0x130), (0x1680, 0x1680), (0x2000, 0x206F), (0x3000, 0x3000),
   (0xD800, 0xDFFF)]

/-- No run of the case table leads to where a run starts from. -/
theorem avoids_lowerRuns :
    (lowerRuns.all fun r => lowerRuns.all fun other => r.avoids other) = true := by
  decide +kernel

/-- No run leads into the spans of blanks and ASCII punctuation. -/
theorem clear_lowerRuns : (lowerRuns.all fun r => r.clear neverImages) = true := by
  decide +kernel

/-- A code point that lowering moves comes to where lowering leaves it. -/
theorem lowerCode_of_ne {n : Nat} (h : lowerCode n ≠ n) :
    lowerCode (lowerCode n) = lowerCode n ∧ lowerCode n < 0x110000 ∧
      ∀ s ∈ neverImages, lowerCode n < s.1 ∨ s.2 < lowerCode n := by
  obtain ⟨r, hr, hm⟩ : ∃ r ∈ lowerRuns, r.image? n = some (lowerCode n) := by
    unfold lowerCode at h ⊢
    cases hfound : lowerRuns.findSome? (·.image? n) with
    | none =>
      rw [hfound] at h
      exact absurd rfl h
    | some m => exact List.exists_of_findSome?_eq_some hfound
  have hclear := List.all_eq_true.1 clear_lowerRuns r hr
  simp only [CaseRun.clear, Bool.and_eq_true, Bool.or_eq_true, List.all_eq_true,
    Nat.blt_eq] at hclear
  -- The images of a run lie outside of all the spans, so this one does.
  have hbounds := CaseRun.image?_mem_images hm
  have hnever : ∀ s ∈ neverImages, lowerCode n < s.1 ∨ s.2 < lowerCode n := by
    intro s hs
    have := hclear.2 s hs
    omega
  have hpos : 0 < r.firstImage := by
    have := hclear.2 (0, 0x60) (by decide)
    omega
  refine ⟨?_, by omega, hnever⟩
  have hnone : lowerRuns.findSome? (·.image? (lowerCode n)) = none := by
    rw [List.findSome?_eq_none_iff]
    intro other hother
    have havoids := List.all_eq_true.1 (List.all_eq_true.1 avoids_lowerRuns r hr) other hother
    exact CaseRun.image?_eq_none_of_avoids havoids hpos hm
  show (lowerRuns.findSome? (·.image? (lowerCode n))).getD (lowerCode n) = lowerCode n
  rw [hnone]
  rfl

/-! ## 2. Characters -/

/-- A character stays, or it becomes one that lowering leaves alone. -/
theorem lowerChar_eq_or (c : Char) :
    lowerChar c = c ∨
      lowerCode (lowerChar c).toNat = (lowerChar c).toNat ∧
        ∀ s ∈ neverImages, (lowerChar c).toNat < s.1 ∨ s.2 < (lowerChar c).toNat := by
  by_cases h : lowerCode c.toNat = c.toNat
  · left
    unfold lowerChar
    rw [h, Char.ofNat_toNat]
  · right
    obtain ⟨hfixed, hbound, hnever⟩ := lowerCode_of_ne h
    have hsurrogate := hnever (0xD800, 0xDFFF) (by decide)
    have hvalid : (lowerCode c.toNat).isValidChar := by
      unfold Nat.isValidChar
      omega
    have htoNat : (lowerChar c).toNat = lowerCode c.toNat := by
      unfold lowerChar Char.ofNat
      rw [dif_pos hvalid]
      rfl
    rw [htoNat]
    exact ⟨hfixed, hnever⟩

def IsSmall (c : Char) : Prop := ∀ before after, lowerBetween before c after = [c]

theorem isSmall_of_ne {c : Char} (hsigma : c ≠ '\u03A3') (hdotted : c ≠ '\u0130')
    (h : lowerChar c = c) : IsSmall c := by
  intro before after
  unfold lowerBetween
  rw [if_neg hsigma, if_neg hdotted, h]

/-- Only two letters are not decided by the case table. -/
theorem mem_lowerBetween {before after : Text} {c d : Char}
    (h : d ∈ lowerBetween before c after) :
    d ∈ ['\u03C2', '\u03C3', 'i', '\u0307'] ∨
      c ≠ '\u03A3' ∧ c ≠ '\u0130' ∧ d = lowerChar c := by
  unfold lowerBetween at h
  split at h
  · left
    split at h
    · rw [List.mem_singleton.1 h]
      decide
    · rw [List.mem_singleton.1 h]
      decide
  · rename_i hsigma
    split at h
    · left
      have hpair : ['i', '\u0307'] ⊆ ['\u03C2', '\u03C3', 'i', '\u0307'] := by simp
      exact hpair h
    · rename_i hdotted
      exact Or.inr ⟨hsigma, hdotted, List.mem_singleton.1 h⟩

/-- Whatever a character becomes is small, wherever that stands then. -/
theorem isSmall_of_mem_lowerBetween {before after : Text} {c d : Char}
    (h : d ∈ lowerBetween before c after) : IsSmall d := by
  rcases mem_lowerBetween h with hd | ⟨hsigma, hdotted, rfl⟩
  · have hspecial : ['\u03C2', '\u03C3', 'i', '\u0307'].all
        (fun d => d ≠ '\u03A3' ∧ d ≠ '\u0130' ∧ lowerChar d = d) = true := by
      decide +kernel
    obtain ⟨hsigma, hdotted, hfixed⟩ := of_decide_eq_true (List.all_eq_true.1 hspecial d hd)
    exact isSmall_of_ne hsigma hdotted hfixed
  · rcases lowerChar_eq_or c with hc | ⟨hfixed, hnever⟩
    · rw [hc]
      exact isSmall_of_ne hsigma hdotted hc
    · have hchar : lowerChar (lowerChar c) = lowerChar c := by
        show Char.ofNat (lowerCode (lowerChar c).toNat) = lowerChar c
        rw [hfixed, Char.ofNat_toNat]
      refine isSmall_of_ne ?_ ?_ hchar
      · -- The table moves the capital sigma, so it is no image.
        intro heq
        rw [heq] at hfixed
        exact absurd hfixed (by decide +kernel)
      · intro heq
        have := hnever (0x130, 0x130) (by decide)
        rw [heq] at this
        exact absurd this (by decide)

/-- Lowering makes neither blanks nor ASCII punctuation. -/
theorem eq_or_of_mem_lowerBetween {before after : Text} {c d : Char}
    (h : d ∈ lowerBetween before c after) :
    d = c ∨ isBlank d = false ∧ 0x60 < d.toNat := by
  rcases mem_lowerBetween h with hd | ⟨-, -, rfl⟩
  · have hspecial : ['\u03C2', '\u03C3', 'i', '\u0307'].all
        (fun d => isBlank d = false ∧ 0x60 < d.toNat) = true := by
      decide
    exact Or.inr (of_decide_eq_true (List.all_eq_true.1 hspecial d hd))
  · rcases lowerChar_eq_or c with hc | ⟨-, hnever⟩
    · exact Or.inl hc
    · right
      simp only [neverImages, List.forall_mem_cons] at hnever
      constructor
      · simp only [isBlank, Bool.or_eq_false_iff, Bool.and_eq_false_iff, decide_eq_false_iff_not,
          beq_eq_false_iff_ne]
        omega
      · omega

/-! ## 3. Texts -/

theorem mem_lowerAfter {before t : Text} {d : Char} (h : d ∈ lowerAfter before t) :
    ∃ c ∈ t, ∃ before' after, d ∈ lowerBetween before' c after := by
  induction t generalizing before with
  | nil => cases h
  | cons c rest ih =>
    rcases List.mem_append.1 h with h | h
    · exact ⟨c, List.mem_cons_self, before, rest, h⟩
    · obtain ⟨c', hc', hd⟩ := ih h
      exact ⟨c', List.mem_cons_of_mem c hc', hd⟩

theorem lowerAfter_of_isSmall {before t : Text} (h : ∀ c ∈ t, IsSmall c) :
    lowerAfter before t = t := by
  induction t generalizing before with
  | nil => rfl
  | cons c rest ih =>
    rw [lowerAfter, h c List.mem_cons_self, ih fun c' hc' => h c' (List.mem_cons_of_mem c hc')]
    rfl

/-- Lowering a text twice is lowering it once. -/
theorem lower_lower (t : Text) : lower (lower t) = lower t := by
  apply lowerAfter_of_isSmall
  intro d hd
  obtain ⟨c, -, before, after, hmem⟩ := mem_lowerAfter hd
  exact isSmall_of_mem_lowerBetween hmem

/-- A character of ASCII before the small letters is in a lowered text only if it was there. -/
theorem mem_of_mem_lower {d : Char} (hd : d.toNat ≤ 0x60) {t : Text} (h : d ∈ lower t) : d ∈ t := by
  obtain ⟨c, hc, before, after, hmem⟩ := mem_lowerAfter h
  rcases eq_or_of_mem_lowerBetween hmem with rfl | ⟨-, hletter⟩
  · exact hc
  · omega

/-! ## 4. Lowering a trimmed text -/

/-- What is not blank at the end keeps the rest from being trimmed. -/
theorem trimEnd_append_of_not_isBlankText {b : Text} (h : ¬ isBlankText b = true) (a : Text) :
    trimEnd (a ++ b) = a ++ trimEnd b := by
  induction a with
  | nil => rfl
  | cons c a ih =>
    have hblank : ¬ isBlankText (c :: (a ++ b)) = true := by
      intro hall
      apply h
      apply List.all_eq_true.2
      intro d hd
      exact List.all_eq_true.1 hall d (List.mem_cons_of_mem c (List.mem_append_right a hd))
    rw [List.cons_append, trimEnd_cons, if_neg hblank, ih]
    rfl

theorem trimEnd_of_forall {t : Text} (h : ∀ c ∈ t, isBlank c = false) : trimEnd t = t := by
  obtain ⟨blank, hblank, ht⟩ := exists_eq_trimEnd_append t
  cases blank with
  | nil =>
    rw [List.append_nil] at ht
    exact ht.symm
  | cons c blank =>
    have hc : c ∈ t := by
      rw [ht]
      exact List.mem_append_right _ List.mem_cons_self
    have hfalse : isBlank c = false := h c hc
    rw [List.all_eq_true.1 hblank c List.mem_cons_self] at hfalse
    cases hfalse

theorem isBlank_of_mem_lowerBetween {before after : Text} {c d : Char} (hc : isBlank c = false)
    (h : d ∈ lowerBetween before c after) : isBlank d = false := by
  rcases eq_or_of_mem_lowerBetween h with rfl | ⟨hd, -⟩
  · exact hc
  · exact hd

theorem lowerAfter_ne_nil {before t : Text} (h : t ≠ []) : lowerAfter before t ≠ [] := by
  cases t with
  | nil => exact absurd rfl h
  | cons c rest => exact List.append_ne_nil_of_left_ne_nil (lowerBetween_ne_nil before c rest) _

/-- The last character is no blank, and becomes none. -/
theorem trimEnd_lowerAfter {t : Text} (h : trimEnd t = t) (before : Text) :
    trimEnd (lowerAfter before t) = lowerAfter before t := by
  induction t generalizing before with
  | nil => rfl
  | cons c rest ih =>
    rw [trimEnd_cons] at h
    split at h
    · cases h
    · rename_i hblank
      rw [List.cons.injEq] at h
      have hrest := ih h.2 (c :: before)
      by_cases hnil : rest = []
      · -- The last character is no blank, and neither is what it becomes.
        subst hnil
        have hc : isBlank c = false := by
          cases hc : isBlank c with
          | false => rfl
          | true => exact absurd (by simp [isBlankText, hc]) hblank
        show trimEnd (lowerBetween before c [] ++ []) = lowerBetween before c [] ++ []
        rw [List.append_nil]
        exact trimEnd_of_forall fun d hd => isBlank_of_mem_lowerBetween hc hd
      · have hlower : ¬ isBlankText (lowerAfter (c :: before) rest) = true := by
          intro hall
          rw [trimEnd_eq_nil_iff.2 hall] at hrest
          exact lowerAfter_ne_nil hnil hrest.symm
        show trimEnd (lowerBetween before c rest ++ lowerAfter (c :: before) rest) = _
        rw [trimEnd_append_of_not_isBlankText hlower, hrest]
        rfl

/-- Nor does the first one. -/
theorem trimStart_lower {t : Text} (h : trimStart t = t) : trimStart (lower t) = lower t := by
  cases t with
  | nil => rfl
  | cons c rest =>
    -- Were the first character blank, trimming would make the text shorter.
    have hc : isBlank c = false := by
      cases hc : isBlank c with
      | false => rfl
      | true =>
        have hlength : (rest.dropWhile isBlank).length ≤ rest.length :=
          (List.dropWhile_sublist isBlank).length_le
        have heq : rest.dropWhile isBlank = c :: rest := by
          rw [← List.dropWhile_cons_of_pos hc]
          exact h
        rw [heq, List.length_cons] at hlength
        omega
    obtain ⟨d, ds, hd⟩ := List.exists_cons_of_ne_nil (lowerBetween_ne_nil [] c rest)
    have hblank : isBlank d = false :=
      isBlank_of_mem_lowerBetween hc (hd ▸ List.mem_cons_self)
    have hlower : lower (c :: rest) = d :: (ds ++ lowerAfter [c] rest) := by
      show lowerBetween [] c rest ++ lowerAfter [c] rest = _
      rw [hd, List.cons_append]
    rw [hlower]
    exact List.dropWhile_cons_of_neg (by simp [hblank])

/-- Lowering brings no blanks to the ends of a text. -/
theorem trim_lower_trim (t : Text) : trim (lower (trim t)) = lower (trim t) := by
  have hend : trimEnd (trim t) = trim t := trimEnd_trim t
  have hstart : trimStart (trim t) = trim t := by
    have h := trimStart_trimEnd (trim t)
    rw [hend, trim_trim] at h
    exact h
  unfold trim
  rw [show trimEnd (trimStart t) = trim t from rfl, trimStart_lower hstart]
  exact trimEnd_lowerAfter hend []

end Cascade.Text
