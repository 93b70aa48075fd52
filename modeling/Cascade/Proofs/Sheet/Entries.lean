import Cascade.Proofs.Sheet.Blocks
import Cascade.Proofs.Sheet.Comments
import Cascade.Sheet.Reading

/-!
# What reading a stylesheet keeps

Whatever a stylesheet text looks like, the names and the texts that are kept have the form that the
rules give them (`ReadEntry`).
-/

namespace Cascade
open Text

/-! ## 1. One block -/

namespace Block

/-- A text that is cut into two pieces has one separator, between them. -/
theorem eq_of_splitOn_eq_pair {sep : Char} {t a b : Text} (h : t.splitOn sep = [a, b]) :
    t = a ++ sep :: b := by
  have ht : List.intercalate [sep] (t.splitOn sep) = t := List.intercalate_splitOn sep
  rw [h, List.intercalate_cons_cons, List.intercalate_singleton, List.append_assoc,
    List.singleton_append] at ht
  exact ht.symm

/-- All that a block can define: a selector between commas and the body, both trimmed. -/
theorem exists_of_mem_definitions_ofText {t : Text} {e : Text × Text}
    (h : e ∈ (ofText t).definitions) :
    ∃ selectors body, t = selectors ++ '{' :: body ∧ '{' ∉ selectors ∧ '{' ∉ body ∧
      (∃ s ∈ selectors.splitOn ',', e = (trim s, trim body)) ∧ e.1 ≠ [] ∧ e.2 ≠ [] := by
  unfold ofText at h
  split at h
  · rename_i selectors body hsplit
    split at h
    · exact absurd h List.not_mem_nil
    · rename_i hblank
      simp only [Bool.or_eq_true, decide_eq_true_eq, not_or] at hblank
      -- Only a block of two pieces that are not blank defines anything.
      rw [selectorsOf_trim] at h
      obtain ⟨name, hname, rfl⟩ := List.mem_map.1 h
      obtain ⟨hmem, hne⟩ := List.mem_filter.1 hname
      obtain ⟨s, hs, rfl⟩ := List.mem_map.1 hmem
      have hbrace {piece : Text} (hpiece : piece ∈ [selectors, body]) : '{' ∉ piece :=
        not_mem_of_mem_splitOn (hsplit ▸ hpiece)
      exact ⟨selectors, body, eq_of_splitOn_eq_pair hsplit, hbrace (by simp), hbrace (by simp),
        ⟨s, hs, rfl⟩, of_decide_eq_true hne, hblank.2⟩
  · split at h
    · exact absurd h List.not_mem_nil
    · exact absurd h List.not_mem_nil

end Block

/-! ## 2. Entries -/

/-- The form of a name, without its point, and of a text that reading a stylesheet keeps. -/
structure ReadEntry (name body : Text) : Prop where
  plain_name : ',' ∉ name ∧ '{' ∉ name ∧ '}' ∉ name
  trim_name : trim ('.' :: name) = '.' :: name
  plain_body : '{' ∉ body ∧ '}' ∉ body
  trim_body : trim body = body
  body_ne_nil : body ≠ []

theorem mem_of_mem_className {c : Char} {name : Text} (h : c ∈ className name) : c ∈ name := by
  unfold className at h
  split at h
  · exact List.mem_cons_of_mem _ h
  · exact h

/-- Without its point a trimmed name is trimmed as long as the point is put back. -/
theorem trim_cons_className {name : Text} (h : trim name = name) :
    trim ('.' :: className name) = '.' :: className name := by
  unfold className
  split
  · exact h
  · -- The point is no blank, so only the end of the name is trimmed, where there is nothing left.
    have hpoint : trimStart ('.' :: name) = '.' :: name := rfl
    have hend : trimEnd ('.' :: name) = '.' :: trimEnd name :=
      trimEnd_append_cons (by decide) [] name
    unfold trim
    rw [hpoint, hend, ← h, trimEnd_trim]

namespace Sheet

/-- What a stylesheet text defines, one of its blocks defines. -/
theorem exists_piece_of_mem_definitionsOfText {t : Text} {e : Text × Text}
    (h : e ∈ definitionsOfText t) :
    ∃ piece ∈ (Comment.strip t).splitOn '}', e ∈ (Block.ofText piece).definitions := by
  obtain ⟨block, hblock, he⟩ := List.mem_flatMap.1 h
  obtain ⟨piece, hpiece, rfl⟩ := List.mem_map.1 hblock
  exact ⟨piece, hpiece, he⟩

/-- A definition is kept in the form of an entry: it was cut at the separators and trimmed. -/
theorem readEntry_of_mem_definitionsOfText {t : Text} {e : Text × Text}
    (h : e ∈ definitionsOfText t) : ReadEntry (className e.1) e.2 := by
  obtain ⟨piece, hpiece, he⟩ := exists_piece_of_mem_definitionsOfText h
  have hclosed : '}' ∉ piece := not_mem_of_mem_splitOn hpiece
  obtain ⟨selectors, body, rfl, hselectors, hbody, ⟨s, hs, rfl⟩, -, hne⟩ :=
    Block.exists_of_mem_definitions_ofText he
  have hname {c : Char} (hc : c ∉ s) : c ∉ className (trim s) := fun hmem =>
    hc (mem_of_mem_trim (mem_of_mem_className hmem))
  have hs' {c : Char} (hc : c ∉ selectors) : c ∉ s := fun hmem => hc (mem_of_mem_splitOn hs hmem)
  have hclosed_selectors : '}' ∉ selectors := fun hmem =>
    hclosed (List.mem_append_left _ hmem)
  have hclosed_body : '}' ∉ body := fun hmem =>
    hclosed (List.mem_append_right _ (List.mem_cons_of_mem _ hmem))
  constructor
  · exact ⟨hname (not_mem_of_mem_splitOn hs), hname (hs' hselectors),
      hname (hs' hclosed_selectors)⟩
  · exact trim_cons_className (trim_trim s)
  · exact ⟨fun hmem => hbody (mem_of_mem_trim hmem), fun hmem =>
      hclosed_body (mem_of_mem_trim hmem)⟩
  · exact trim_trim body
  · exact hne

/-- A class was there before, or it comes from one of the definitions. -/
theorem mem_classes_defineAll {s : Sheet} {definitions : List (Text × Text)} {e : Text × Text}
    (h : e ∈ (s.defineAll definitions).classes) :
    e ∈ s.classes ∨ ∃ d ∈ definitions, e = (className d.1, d.2) := by
  induction definitions generalizing s with
  | nil => exact Or.inl h
  | cons d rest ih =>
    rcases ih h with hclasses | ⟨d', hd', he⟩
    · -- The first definition is all that the stylesheet has gained before the others.
      rcases mem_assignEntry hclasses with heq | hmem
      · exact Or.inr ⟨d, List.mem_cons_self, heq⟩
      · exact Or.inl hmem
    · exact Or.inr ⟨d', List.mem_cons_of_mem _ hd', he⟩

/-- Reading adds no character to a body. -/
theorem mem_of_mem_definitionsOfText {c : Char} {t : Text} {e : Text × Text}
    (h : e ∈ definitionsOfText t) (hc : c ∈ e.2) : c ∈ t := by
  obtain ⟨piece, hpiece, he⟩ := exists_piece_of_mem_definitionsOfText h
  obtain ⟨selectors, body, rfl, -, -, ⟨s, -, rfl⟩, -, -⟩ :=
    Block.exists_of_mem_definitions_ofText he
  have hbody : c ∈ selectors ++ '{' :: body :=
    List.mem_append_right _ (List.mem_cons_of_mem _ (mem_of_mem_trim hc))
  exact Comment.mem_of_mem_strip (mem_of_mem_splitOn hpiece hbody)

/-- A text of a class is made of characters of the stylesheet. -/
theorem mem_of_css?_ofText {c : Char} {t name body : Text} (h : (ofText t).css? name = some body)
    (hc : c ∈ body) : c ∈ t := by
  have hclass : (className name, body) ∈ (ofText t).classes := by
    obtain ⟨before, after, heq, -⟩ := List.lookup_eq_some_iff.1 h
    rw [heq]
    exact List.mem_append_right _ List.mem_cons_self
  rcases mem_classes_defineAll hclass with hempty | ⟨d, hd, heq⟩
  · exact absurd hempty List.not_mem_nil
  · rw [(Prod.mk.inj heq).2] at hc
    exact mem_of_mem_definitionsOfText hd hc

theorem readEntry_of_mem_classes {t : Text} {e : Text × Text} (h : e ∈ (ofText t).classes) :
    ReadEntry e.1 e.2 := by
  rcases mem_classes_defineAll h with hempty | ⟨d, hd, rfl⟩
  · exact absurd hempty List.not_mem_nil
  · exact readEntry_of_mem_definitionsOfText hd

end Sheet
end Cascade
