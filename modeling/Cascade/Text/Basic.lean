/-!
# Text

A text is a list of characters.  The formats of this library take it apart at every separator, with
`List.splitOn`, or at the first one, with `breakOn`.
-/

namespace Cascade

abbrev Text := List Char

namespace Text

/-! ## 1. Splitting at every separator -/

theorem splitOn_cons_self (sep : Char) (t : Text) :
    (sep :: t).splitOn sep = [] :: t.splitOn sep := by
  rw [List.splitOn_cons_eq_if_modifyHead, if_pos (beq_self_eq_true sep)]

/-- A character that is no separator comes in front of the first piece. -/
theorem splitOn_cons_ne {sep c : Char} (h : c ≠ sep) (t : Text) :
    ∃ piece pieces, t.splitOn sep = piece :: pieces ∧
      (c :: t).splitOn sep = (c :: piece) :: pieces := by
  obtain ⟨piece, pieces, ht⟩ := List.exists_cons_of_ne_nil (List.splitOn_ne_nil sep t)
  refine ⟨piece, pieces, ht, ?_⟩
  rw [List.splitOn_cons_eq_if_modifyHead, if_neg (mt beq_iff_eq.1 h), ht, List.modifyHead_cons]

/-- No piece holds the separator. -/
theorem not_mem_of_mem_splitOn {sep : Char} {t piece : Text} (h : piece ∈ t.splitOn sep) :
    sep ∉ piece := by
  induction t generalizing piece with
  | nil =>
    rw [List.splitOn_nil, List.mem_singleton] at h
    simp [h]
  | cons c rest ih =>
    by_cases hc : c = sep
    · subst hc
      rw [splitOn_cons_self, List.mem_cons] at h
      rcases h with rfl | h
      · simp
      · exact ih h
    · obtain ⟨p, ps, hs, hcons⟩ := splitOn_cons_ne hc rest
      rw [hcons, List.mem_cons] at h
      rcases h with rfl | h
      · have hp := ih (hs ▸ List.mem_cons_self : p ∈ rest.splitOn sep)
        simp [hp, Ne.symm hc]
      · exact ih (hs ▸ List.mem_cons_of_mem _ h)

/-- What is read from a text piece by piece is read from joined texts one after the other. -/
theorem read_intercalate {α : Type} {read : Text → List α} {sep : Text} (hnil : read [] = [])
    (happend : ∀ a b, read (a ++ (sep ++ b)) = read a ++ read b) (pieces : List Text) :
    read (List.intercalate sep pieces) = pieces.flatMap read := by
  induction pieces with
  | nil => exact hnil
  | cons piece rest ih =>
    cases rest with
    | nil => rw [List.intercalate_singleton, List.flatMap_singleton]
    | cons next others =>
      rw [List.intercalate_cons_cons, List.append_assoc, happend, ih]
      exact List.flatMap_cons.symm

theorem mem_intercalate_iff {c : Char} {sep : Text} (h : c ∉ sep) {pieces : List Text} :
    c ∈ List.intercalate sep pieces ↔ ∃ piece ∈ pieces, c ∈ piece := by
  have hsep : sep.filter (· == c) = [] := by
    rw [List.filter_eq_nil_iff]
    rintro d hd hdc
    exact h (beq_iff_eq.1 hdc ▸ hd)
  have happend (a b : Text) : (a ++ (sep ++ b)).filter (· == c) =
      a.filter (· == c) ++ b.filter (· == c) := by
    rw [List.filter_append, List.filter_append, hsep, List.nil_append]
  have hmem (t : Text) : c ∈ t ↔ c ∈ t.filter (· == c) := by simp
  rw [hmem, read_intercalate List.filter_nil happend, List.mem_flatMap]
  simp only [← hmem]

/-- A piece has no characters but those of the text. -/
theorem mem_of_mem_splitOn {sep c : Char} {t piece : Text} (h : piece ∈ t.splitOn sep)
    (hc : c ∈ piece) : c ∈ t := by
  have hne : c ∉ [sep] := by
    rw [List.mem_singleton]
    rintro rfl
    exact not_mem_of_mem_splitOn h hc
  rw [← (List.intercalate_splitOn sep : List.intercalate [sep] (t.splitOn sep) = t),
    mem_intercalate_iff hne]
  exact ⟨piece, h, hc⟩

/-! ## 2. Breaking at the first separator -/

/-- What stands before the first separator and what stands after it, if there is one. -/
def breakOn (sep : Char) : Text → Option (Text × Text)
  | [] => none
  | c :: rest =>
    if c = sep then some ([], rest)
    else (breakOn sep rest).map fun (before, after) => (c :: before, after)

theorem breakOn_eq_none_iff {sep : Char} {t : Text} : breakOn sep t = none ↔ sep ∉ t := by
  induction t with
  | nil => simp [breakOn]
  | cons c rest ih =>
    by_cases hc : c = sep
    · simp [breakOn, hc]
    · simp [breakOn, hc, ih, Ne.symm hc]

/-- The separator that is found is the first one. -/
theorem breakOn_eq_some_iff {sep : Char} {t before after : Text} :
    breakOn sep t = some (before, after) ↔ t = before ++ sep :: after ∧ sep ∉ before := by
  induction t generalizing before with
  | nil => simp [breakOn]
  | cons c rest ih =>
    by_cases hc : c = sep
    · subst hc
      simp only [breakOn, if_true, Option.some.injEq, Prod.mk.injEq]
      constructor
      · rintro ⟨rfl, rfl⟩
        simp
      · rintro ⟨h, hn⟩
        cases before with
        | nil => simpa using h
        | cons d ds =>
          simp only [List.cons_append, List.cons.injEq] at h
          simp [h.1] at hn
    · simp only [breakOn, hc, if_false, Option.map_eq_some_iff, Prod.mk.injEq]
      constructor
      · rintro ⟨⟨b, a⟩, hb, rfl, rfl⟩
        obtain ⟨rfl, hn⟩ := ih.1 hb
        simp [hn, Ne.symm hc]
      · rintro ⟨h, hn⟩
        -- The text does not start with a separator, so what stands before it starts with this
        -- character.
        cases before with
        | nil => simp [hc] at h
        | cons d ds =>
          simp only [List.cons_append, List.cons.injEq] at h
          obtain ⟨rfl, rfl⟩ := h
          have hds : sep ∉ ds := fun e => hn (List.mem_cons_of_mem _ e)
          exact ⟨(ds, after), ih.2 ⟨rfl, hds⟩, rfl, rfl⟩

/-! ## 3. Parts of a text -/

def occursIn (part : Text) : Text → Bool
  | [] => part.isEmpty
  | c :: rest => part.isPrefixOf (c :: rest) || occursIn part rest

theorem occursIn_iff {part t : Text} :
    occursIn part t = true ↔ ∃ before after, t = before ++ part ++ after := by
  induction t with
  | nil =>
    simp only [occursIn, List.isEmpty_iff]
    constructor
    · rintro rfl
      exact ⟨[], [], rfl⟩
    · rintro ⟨before, after, h⟩
      simp_all
  | cons c rest ih =>
    simp only [occursIn, Bool.or_eq_true, List.isPrefixOf_iff_prefix, ih]
    constructor
    · rintro (⟨after, h⟩ | ⟨before, after, rfl⟩)
      · exact ⟨[], after, by simp [h]⟩
      · exact ⟨c :: before, after, by simp⟩
    · rintro ⟨before, after, h⟩
      cases before with
      | nil => exact Or.inl ⟨after, by simpa using h.symm⟩
      | cons d ds =>
        simp only [List.cons_append, List.cons.injEq] at h
        exact Or.inr ⟨ds, after, h.2⟩

end Text
end Cascade
