import Cascade.Text.Blank

/-!
# Blanks at the ends of a text

Trimming takes a blank text from either end, and a separator that is no blank does not see it.
-/

namespace Cascade.Text

/-! ## 1. Blanks at one end -/

theorem not_mem_of_isBlankText {c : Char} {t : Text} (hc : isBlank c = false)
    (h : isBlankText t = true) : c ∉ t := by
  intro hmem
  have hblank : isBlank c = true := List.all_eq_true.1 h c hmem
  rw [hc] at hblank
  exact absurd hblank (by decide)

theorem trim_cons_of_isBlank {c : Char} (h : isBlank c = true) (t : Text) :
    trim (c :: t) = trim t := by
  unfold trim trimStart
  rw [List.dropWhile_cons_of_pos h]

theorem trim_append_left {blank : Text} (h : isBlankText blank = true) (t : Text) :
    trim (blank ++ t) = trim t := by
  unfold trim trimStart
  rw [List.dropWhile_append_of_pos (List.all_eq_true.1 h)]

theorem trimEnd_append {blank : Text} (h : isBlankText blank = true) (t : Text) :
    trimEnd (t ++ blank) = trimEnd t := by
  unfold trimEnd
  rw [List.reverse_append, List.dropWhile_append_of_pos]
  intro c hc
  exact List.all_eq_true.1 h c (List.mem_reverse.1 hc)

theorem isBlankText_takeWhile (t : Text) : isBlankText (t.takeWhile isBlank) = true :=
  List.all_eq_true.2 fun c hc => List.all_eq_true.1 List.all_takeWhile c hc

/-- What is trimmed from the end is blank. -/
theorem exists_eq_trimEnd_append (t : Text) :
    ∃ blank, isBlankText blank = true ∧ t = trimEnd t ++ blank := by
  refine ⟨(t.reverse.takeWhile isBlank).reverse, ?_, ?_⟩
  · rw [isBlankText_reverse]
    exact isBlankText_takeWhile t.reverse
  · unfold trimEnd
    rw [← List.reverse_append, List.takeWhile_append_dropWhile, List.reverse_reverse]

theorem mem_of_mem_trimEnd {c : Char} {t : Text} (h : c ∈ trimEnd t) : c ∈ t := by
  obtain ⟨blank, -, ht⟩ := exists_eq_trimEnd_append t
  rw [ht]
  exact List.mem_append_left blank h

theorem trimEnd_trimEnd (t : Text) : trimEnd (trimEnd t) = trimEnd t := by
  obtain ⟨blank, hblank, ht⟩ := exists_eq_trimEnd_append t
  have h := trimEnd_append hblank (trimEnd t)
  rw [← ht] at h
  exact h.symm

/-- Trimming the end of a text, followed from its start. -/
theorem trimEnd_cons (c : Char) (t : Text) :
    trimEnd (c :: t) = if isBlankText (c :: t) = true then [] else c :: trimEnd t := by
  split
  · rename_i h
    exact trimEnd_eq_nil_iff.2 h
  · rename_i h
    unfold trimEnd
    rw [List.reverse_cons, List.dropWhile_append]
    split
    · rename_i hrest
      -- Nothing is left of the rest, so the first character is the one that is no blank.
      have ht : isBlankText t = true :=
        trimEnd_eq_nil_iff.1 (List.reverse_eq_nil_iff.2 (List.isEmpty_iff.1 hrest))
      have hc : ¬ isBlank c = true := fun hc => h (by
        show (isBlank c && isBlankText t) = true
        rw [hc, ht, Bool.true_and])
      rw [List.isEmpty_iff.1 hrest, List.dropWhile_cons_of_neg hc]
      rfl
    · rw [List.reverse_append]
      rfl

/-- A character that is no blank keeps everything before it. -/
theorem trimEnd_append_cons {c : Char} (h : isBlank c = false) (a t : Text) :
    trimEnd (a ++ c :: t) = a ++ c :: trimEnd t := by
  induction a with
  | nil =>
    have hblank : ¬ isBlankText (c :: t) = true := fun hall =>
      not_mem_of_isBlankText h hall List.mem_cons_self
    rw [List.nil_append, List.nil_append, trimEnd_cons, if_neg hblank]
  | cons d a ih =>
    have hblank : ¬ isBlankText (d :: (a ++ c :: t)) = true := fun hall =>
      not_mem_of_isBlankText h hall (by simp)
    rw [List.cons_append, trimEnd_cons, if_neg hblank, ih, List.cons_append]

/-! ## 2. Blanks at both ends -/

/-- The two ends may be trimmed in either order. -/
theorem trimStart_trimEnd (t : Text) : trimStart (trimEnd t) = trim t := by
  induction t with
  | nil => rfl
  | cons c rest ih =>
    by_cases hc : isBlank c = true
    · rw [trim_cons_of_isBlank hc, ← ih, trimEnd_cons]
      split
      · rename_i hblank
        have hrest : isBlankText rest = true := (Bool.and_eq_true_iff.1 hblank).2
        rw [trimEnd_eq_nil_iff.2 hrest]
      · exact List.dropWhile_cons_of_pos hc
    · have hstart (u : Text) : trimStart (c :: u) = c :: u := List.dropWhile_cons_of_neg hc
      have hend : trimEnd (c :: rest) = c :: trimEnd rest :=
        trimEnd_append_cons (Bool.eq_false_iff.2 hc) [] rest
      rw [trim, hstart, hend, hstart]

/-- Blanks put at the end of a text are trimmed away again. -/
theorem trim_append_right {blank : Text} (h : isBlankText blank = true) (t : Text) :
    trim (t ++ blank) = trim t := by
  rw [← trimStart_trimEnd, trimEnd_append h, trimStart_trimEnd]

theorem trim_trimEnd (t : Text) : trim (trimEnd t) = trim t := by
  rw [← trimStart_trimEnd, trimEnd_trimEnd, trimStart_trimEnd]

theorem trimEnd_trim (t : Text) : trimEnd (trim t) = trim t :=
  trimEnd_trimEnd (trimStart t)

/-- Trimming takes a blank text from either end. -/
theorem exists_eq_append_trim (t : Text) :
    ∃ before after, isBlankText before = true ∧ isBlankText after = true ∧
      t = before ++ (trim t ++ after) := by
  obtain ⟨after, hafter, hend⟩ := exists_eq_trimEnd_append (trimStart t)
  refine ⟨t.takeWhile isBlank, after, isBlankText_takeWhile t, hafter, ?_⟩
  unfold trim
  rw [← hend]
  exact List.takeWhile_append_dropWhile.symm

/-- Trimming twice is trimming once. -/
theorem trim_trim (t : Text) : trim (trim t) = trim t := by
  obtain ⟨before, after, hbefore, hafter, ht⟩ := exists_eq_append_trim t
  have h := trim_append_left hbefore (trim t ++ after)
  rw [← ht, trim_append_right hafter] at h
  exact h.symm

theorem trim_of_forall_not_isBlank {t : Text} (h : ∀ c ∈ t, isBlank c = false) : trim t = t := by
  obtain ⟨before, after, hbefore, hafter, ht⟩ := exists_eq_append_trim t
  have hnil {blank : Text} (hblank : isBlankText blank = true) (hmem : ∀ c ∈ blank, c ∈ t) :
      blank = [] :=
    List.eq_nil_iff_forall_not_mem.2 fun c hc => not_mem_of_isBlankText (h c (hmem c hc)) hblank hc
  have hbefore := hnil hbefore fun c hc => ht ▸ List.mem_append_left _ hc
  have hafter := hnil hafter fun c hc =>
    ht ▸ List.mem_append_right before (List.mem_append_right (trim t) hc)
  rw [hbefore, hafter, List.nil_append, List.append_nil] at ht
  exact ht.symm

theorem mem_of_mem_trim {c : Char} {t : Text} (h : c ∈ trim t) : c ∈ t := by
  obtain ⟨before, after, -, -, ht⟩ := exists_eq_append_trim t
  rw [ht]
  exact List.mem_append_right before (List.mem_append_left after h)

theorem length_trim_le (t : Text) : (trim t).length ≤ t.length := by
  obtain ⟨before, after, -, -, ht⟩ := exists_eq_append_trim t
  have hlength := congrArg List.length ht
  rw [List.length_append, List.length_append] at hlength
  omega

def IsTrimmed (t : Text) : Prop :=
  (∀ c ∈ t.head?, isBlank c = false) ∧ ∀ c ∈ t.getLast?, isBlank c = false

/-- What trimming leaves alone has no blank at its ends. -/
theorem isTrimmed_of_trim_eq {t : Text} (h : trim t = t) : IsTrimmed t := by
  -- A blank at an end would be taken off, and the text would not be as long as it is.
  constructor
  · intro c hc
    obtain ⟨rest, rfl⟩ := List.head?_eq_some_iff.1 hc
    rw [← Bool.not_eq_true]
    intro hblank
    have hlength := length_trim_le rest
    rw [← trim_cons_of_isBlank hblank, h, List.length_cons] at hlength
    omega
  · intro c hc
    obtain ⟨front, rfl⟩ := List.getLast?_eq_some_iff.1 hc
    rw [← Bool.not_eq_true]
    intro hblank
    have hlength := length_trim_le front
    have hend : isBlankText [c] = true := List.all_eq_true.2 (by simp [hblank])
    rw [← trim_append_right hend, h, List.length_append, List.length_singleton] at hlength
    omega

theorem isTrimmed_trim (t : Text) : IsTrimmed (trim t) :=
  isTrimmed_of_trim_eq (trim_trim t)

/-! ## 3. Splitting -/

/-- There is one piece more than there are separators. -/
theorem length_splitOn (sep : Char) (t : Text) : (t.splitOn sep).length = t.count sep + 1 := by
  induction t with
  | nil => rfl
  | cons c rest ih =>
    by_cases hc : c = sep
    · subst hc
      rw [splitOn_cons_self, List.length_cons, ih, List.count_cons_self]
    · obtain ⟨piece, pieces, hrest, hcons⟩ := splitOn_cons_ne hc rest
      rw [hrest] at ih
      rw [hcons, List.count_cons_of_ne hc, ← ih]
      rfl

/-- A text without a separator lengthens the first piece of what follows it. -/
theorem exists_splitOn_append_left {sep : Char} {a : Text} (h : sep ∉ a) (t : Text) :
    ∃ first pieces, t.splitOn sep = first :: pieces ∧
      (a ++ t).splitOn sep = (a ++ first) :: pieces := by
  induction a with
  | nil =>
    obtain ⟨first, pieces, ht⟩ := List.exists_cons_of_ne_nil (List.splitOn_ne_nil sep t)
    exact ⟨first, pieces, ht, ht⟩
  | cons c a ih =>
    have hc : c ≠ sep := fun heq => h (heq ▸ List.mem_cons_self)
    obtain ⟨first, pieces, ht, hat⟩ := ih fun hmem => h (List.mem_cons_of_mem c hmem)
    obtain ⟨piece, others, hrest, hcons⟩ := splitOn_cons_ne hc (a ++ t)
    rw [hat, List.cons.injEq] at hrest
    obtain ⟨rfl, rfl⟩ := hrest
    exact ⟨first, pieces, ht, hcons⟩

/-- A text without a separator lengthens the last piece of what it follows. -/
theorem exists_splitOn_append_right {sep : Char} {b : Text} (h : sep ∉ b) (t : Text) :
    ∃ pieces last, t.splitOn sep = pieces ++ [last] ∧
      (t ++ b).splitOn sep = pieces ++ [last ++ b] := by
  induction t with
  | nil => exact ⟨[], [], rfl, List.splitOn_eq_singleton h⟩
  | cons c rest ih =>
    obtain ⟨pieces, last, hrest, hb⟩ := ih
    by_cases hc : c = sep
    · subst hc
      refine ⟨[] :: pieces, last, ?_, ?_⟩
      · rw [splitOn_cons_self, hrest, List.cons_append]
      · rw [List.cons_append, splitOn_cons_self, hb, List.cons_append]
    · obtain ⟨piece, others, hpiece, hcons⟩ := splitOn_cons_ne hc rest
      obtain ⟨piece', others', hpiece', hcons'⟩ := splitOn_cons_ne hc (rest ++ b)
      rw [hrest] at hpiece
      rw [hb] at hpiece'
      -- The character joins the first piece, which is also the last one if there is no other.
      cases pieces with
      | nil =>
        rw [List.nil_append, List.cons.injEq] at hpiece hpiece'
        obtain ⟨rfl, rfl⟩ := hpiece
        obtain ⟨rfl, rfl⟩ := hpiece'
        exact ⟨[], c :: last, hcons, hcons'⟩
      | cons first pieces =>
        rw [List.cons_append, List.cons.injEq] at hpiece hpiece'
        obtain ⟨rfl, rfl⟩ := hpiece
        obtain ⟨rfl, rfl⟩ := hpiece'
        exact ⟨(c :: first) :: pieces, last, hcons, hcons'⟩

/-- Pieces trim to the same texts whether or not the whole was trimmed before. -/
theorem map_trim_splitOn_trim {sep : Char} (h : isBlank sep = false) (t : Text) :
    ((trim t).splitOn sep).map trim = (t.splitOn sep).map trim := by
  obtain ⟨before, after, hbefore, hafter, ht⟩ := exists_eq_append_trim t
  obtain ⟨first, pieces, hinner, hall⟩ :=
    exists_splitOn_append_left (not_mem_of_isBlankText h hbefore) (trim t ++ after)
  obtain ⟨pieces', last, htrim, hend⟩ :=
    exists_splitOn_append_right (not_mem_of_isBlankText h hafter) (trim t)
  calc ((trim t).splitOn sep).map trim
      = ((trim t ++ after).splitOn sep).map trim := by
        rw [htrim, hend, List.map_append, List.map_append, List.map_singleton,
          List.map_singleton, trim_append_right hafter]
    _ = ((before ++ (trim t ++ after)).splitOn sep).map trim := by
        rw [hinner, hall, List.map_cons, List.map_cons, trim_append_left hbefore]
    _ = (t.splitOn sep).map trim := by rw [← ht]

end Cascade.Text
