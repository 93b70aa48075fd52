import Cascade.Proofs.Style.NamedDeclarations

/-!
# Trimming a declaration block

A last segment such as `color: ` is a declaration only for the blank after its colon.  That is all
that trimming can take from a block.
-/

namespace Cascade
open Text

/-! ## 1. The last segment -/

namespace Segment

/-- The declaration that a segment is only for the blanks after its colon.  It has a name, and its
value is empty. -/
def trailing? (t : Text) : Option Declaration :=
  match breakOn ':' t with
  | some (property, value) =>
    if trim property ≠ [] ∧ value ≠ [] ∧ isBlankText value = true then
      some ⟨lower (trim property), []⟩
    else none
  | none => none

/-- Trimming a segment takes from it the declaration that it is only for its blanks. -/
theorem named?_trimEnd (t : Text) :
    (ofText t).named?.toList =
      (ofText (trimEnd t)).named?.toList ++ (trailing? t).toList := by
  cases hbreak : breakOn ':' t with
  | none =>
    have hend : breakOn ':' (trimEnd t) = none := by
      rw [breakOn_eq_none_iff] at hbreak ⊢
      exact mt mem_of_mem_trimEnd hbreak
    have htrailing : trailing? t = none := by
      unfold trailing?
      rw [hbreak]
    rw [named?_of_breakOn_none hbreak, named?_of_breakOn_none hend, htrailing]
    rfl
  | some sides =>
    obtain ⟨property, value⟩ := sides
    obtain ⟨ht, hproperty⟩ := breakOn_eq_some_iff.1 hbreak
    -- The first colon stays where it is, and the blanks go from the value.
    have hend : breakOn ':' (trimEnd t) = some (property, trimEnd value) := by
      rw [breakOn_eq_some_iff, ht, trimEnd_append_cons (by decide)]
      exact ⟨rfl, hproperty⟩
    rw [named?_of_breakOn hbreak, named?_of_breakOn hend, trim_trimEnd]
    unfold trailing?
    rw [hbreak]
    by_cases hname : trim property = []
    · simp [hname]
    · by_cases hblank : isBlankText value = true
      · -- An empty value is refused before and after, and a blank one only after.
        by_cases hvalue : value = []
        · simp [hvalue, show trimEnd [] = [] from rfl]
        · simp [hname, hvalue, hblank, trimEnd_eq_nil_iff.2 hblank, trim_eq_nil_iff.2 hblank]
      · have hvalue : value ≠ [] := by
          rintro rfl
          exact hblank rfl
        have hkept : trimEnd value ≠ [] := mt trimEnd_eq_nil_iff.1 hblank
        simp [hname, hvalue, hblank, hkept]

end Segment

/-! ## 2. Blocks -/

namespace Declaration

/-- The declaration that a block ends with only for the blanks after its last colon. -/
def trailing? (t : Text) : Option Declaration :=
  (t.splitOn ';').getLast?.bind Segment.trailing?

theorem trailing?_of_not_mem {t : Text} (h : ';' ∉ t) : trailing? t = Segment.trailing? t := by
  unfold trailing?
  rw [List.splitOn_eq_singleton h]
  rfl

/-- Only the last segment counts. -/
theorem trailing?_append_cons {last : Text} (h : ';' ∉ last) (t : Text) :
    trailing? (t ++ ';' :: last) = Segment.trailing? last := by
  unfold trailing?
  rw [List.splitOn_append_cons_self, List.splitOn_eq_singleton h, List.getLast?_concat]
  rfl

theorem namedOfText_of_not_mem {t : Text} (h : ';' ∉ t) :
    namedOfText t = (Segment.ofText t).named?.toList := by
  rw [namedOfText_eq_filterMap, List.splitOn_eq_singleton h, List.filterMap_cons]
  cases (Segment.ofText t).named? with
  | none => rfl
  | some d => rfl

/-- Blanks before a block make no difference. -/
theorem namedOfText_append_left {blank : Text} (h : isBlankText blank = true) (t : Text) :
    namedOfText (blank ++ t) = namedOfText t := by
  induction blank with
  | nil => rfl
  | cons c blank ih =>
    obtain ⟨hc, hrest⟩ := Bool.and_eq_true_iff.1 h
    rw [List.cons_append, namedOfText_cons_of_isBlank hc, ih hrest]

theorem namedOfText_trimEnd_of_not_mem {t : Text} (h : ';' ∉ t) :
    namedOfText t = namedOfText (trimEnd t) ++ (Segment.trailing? t).toList := by
  have hend : ';' ∉ trimEnd t := mt mem_of_mem_trimEnd h
  rw [namedOfText_of_not_mem h, namedOfText_of_not_mem hend, Segment.named?_trimEnd]

/-- Trimming a block takes that declaration of its last segment from it. -/
theorem namedOfText_trimEnd (t : Text) :
    namedOfText t = namedOfText (trimEnd t) ++ (trailing? t).toList := by
  by_cases hmem : ';' ∈ t
  · -- Only what stands after the last semicolon is touched.
    obtain ⟨after, before, hreverse, hafter⟩ :=
      List.eq_append_cons_of_mem (List.mem_reverse.2 hmem)
    have ht : t = before.reverse ++ ';' :: after.reverse := by
      rw [← List.reverse_reverse t, hreverse, List.reverse_append, List.reverse_cons,
        List.append_assoc, List.singleton_append]
    have hlast : ';' ∉ after.reverse := mt List.mem_reverse.1 hafter
    rw [ht, trimEnd_append_cons (by decide), namedOfText_append_cons, namedOfText_append_cons,
      trailing?_append_cons hlast, namedOfText_trimEnd_of_not_mem hlast, List.append_assoc]
  · rw [trailing?_of_not_mem hmem]
    exact namedOfText_trimEnd_of_not_mem hmem

end Declaration

/-! ## 3. Styles -/

namespace Style

theorem ofText_eq_ofDeclarations_named (provider : Provider) (t : Text) :
    ofText provider t = ofDeclarations provider (Declaration.namedOfText t) :=
  (ofDeclarations_filter_isNamed provider (Declaration.listOfText t)).symm

/-- The style of a block is that of the trimmed block, with the declaration applied that trimming
takes from it. -/
theorem ofText_eq_apply_trailing? (provider : Provider) (t : Text) :
    ofText provider t =
      (Declaration.trailing? t).toList.foldl (Declaration.apply provider)
        (ofText provider (trim t)) := by
  have htrim : Declaration.namedOfText (trimEnd t) = Declaration.namedOfText (trim t) := by
    have hsplit : trimEnd t = (trimEnd t).takeWhile isBlank ++ trim t := by
      rw [← trimStart_trimEnd]
      exact List.takeWhile_append_dropWhile.symm
    rw [hsplit, Declaration.namedOfText_append_left (isBlankText_takeWhile _)]
  rw [ofText_eq_ofDeclarations_named, Declaration.namedOfText_trimEnd, htrim,
    ofDeclarations_append, ← ofText_eq_ofDeclarations_named]

end Style
end Cascade
