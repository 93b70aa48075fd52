import Cascade.Proofs.Sheet.Blocks
import Cascade.Proofs.Sheet.Comments
import Cascade.Sheet.Reading

/-!
# Stylesheets in pieces

A stylesheet may be read in pieces that are cut after a complete block and outside of comments.
-/

namespace Cascade
open Text

/-! ## 1. Cuts between comments -/

namespace Comment

/-- Every comment that stripping meets is closed: the parts open none, and neither does the end. -/
def AllClosed (t : Text) : Prop :=
  ∃ c : Commented, c.text = t ∧ (∀ part ∈ c.parts, opensIn part.1 = false) ∧
    opensIn c.last = false

/-- Stripping treats the pieces apart, as no slash is left at the cut for a star to join it. -/
theorem strip_append_of_allClosed {a : Text} (h : AllClosed a)
    (hlast : (strip a).getLast? ≠ some '/') (b : Text) :
    strip (a ++ b) = strip a ++ strip b := by
  obtain ⟨c, rfl, hparts, hopen⟩ := h
  have hstrip : strip c.text = c.parts.flatMap Prod.fst ++ c.last := by
    have htext := c.strip_text_append hparts []
    rw [List.append_nil, List.append_nil, strip_of_not_opensIn hopen] at htext
    exact htext
  rw [hstrip] at hlast
  have hseam : ¬ (c.last.getLast? = some '/' ∧ b.head? = some '*') := by
    rintro ⟨hslash, -⟩
    apply hlast
    rw [List.getLast?_append, hslash, Option.some_or]
  rw [c.strip_text_append hparts, strip_append hopen hseam, hstrip, List.append_assoc]

end Comment

/-! ## 2. Cuts between blocks -/

namespace Block

def Complete (t : Text) : Prop :=
  isBlankText t = true ∨
    ∃ blocks blank, t = blocks ++ '}' :: blank ∧ isBlankText blank = true

/-- What ends in a brace and blanks does not end in a slash. -/
theorem Complete.getLast?_ne {t : Text} (h : Complete t) : t.getLast? ≠ some '/' := by
  have hslash {blank : Text} (hblank : isBlankText blank = true) : '/' ∉ blank :=
    not_mem_of_isBlankText (by decide) hblank
  intro hlast
  obtain hblank | ⟨blocks, blank, rfl, hblank⟩ := h
  · exact hslash hblank (List.mem_of_getLast? hlast)
  · -- The last character is the brace or one of the blanks after it.
    rw [List.getLast?_append, List.getLast?_cons, Option.some_or, ← List.getLast?_cons] at hlast
    rcases List.mem_cons.1 (List.mem_of_getLast? hlast) with heq | hmem
    · exact absurd heq (by decide)
    · exact hslash hblank hmem

/-- The blanks at the end of the first piece come before the first block of the second one. -/
theorem exists_listOfBare_append {a : Text} (h : Complete a) :
    ∃ blocks, listOfBare a = blocks ++ [blank] ∧
      ∀ b, listOfBare (a ++ b) = blocks ++ listOfBare b := by
  have hend {t : Text} (ht : isBlankText t = true) : listOfBare t = [blank] := by
    have hbrace : '}' ∉ t := not_mem_of_isBlankText (by decide) ht
    rw [listOfBare_of_not_mem hbrace, ofText_of_isBlankText ht]
  obtain hblank | ⟨t, rest, rfl, hblank⟩ := h
  · exact ⟨[], hend hblank, listOfBare_append_of_isBlankText hblank⟩
  · refine ⟨listOfBare t, ?_, ?_⟩
    · rw [listOfBare_append_cons, hend hblank]
    · intro b
      rw [List.append_assoc, List.cons_append, listOfBare_append_cons,
        listOfBare_append_of_isBlankText hblank]

theorem exists_listOfText_append {a : Text} (hclosed : Comment.AllClosed a)
    (hcomplete : Complete (Comment.strip a)) :
    ∃ blocks, listOfText a = blocks ++ [blank] ∧
      ∀ b, listOfText (a ++ b) = blocks ++ listOfText b := by
  obtain ⟨blocks, ha, happend⟩ := exists_listOfBare_append hcomplete
  refine ⟨blocks, ha, ?_⟩
  intro b
  rw [← listOfBare_strip, Comment.strip_append_of_allClosed hclosed hcomplete.getLast?_ne]
  exact happend (Comment.strip b)

end Block

/-! ## 3. Reading in pieces -/

namespace Sheet

/-- **Reading in pieces is reading the whole.**  When a stylesheet text is cut where every comment
is closed and, without the comments, nothing but blanks follows the last closing brace, reading the
two pieces one after the other gives the same stylesheet as reading the whole, and the same records
in the same order. -/
theorem parse_append (s : Sheet) {a : Text} (hclosed : Comment.AllClosed a)
    (hcomplete : Block.Complete (Comment.strip a)) (b : Text) :
    s.parse (a ++ b) = (s.parse a).parse b ∧
      recordsOfText (a ++ b) = recordsOfText a ++ recordsOfText b := by
  obtain ⟨blocks, ha, happend⟩ := Block.exists_listOfText_append hclosed hcomplete
  constructor
  · have hdefinitions :
        definitionsOfText (a ++ b) = definitionsOfText a ++ definitionsOfText b := by
      have hblank : [Block.blank].flatMap Block.definitions = [] := rfl
      unfold definitionsOfText
      rw [ha, happend, List.flatMap_append, List.flatMap_append, hblank, List.append_nil]
    unfold parse
    rw [hdefinitions, defineAll_append]
  · have hblank : [Block.blank].filterMap (·.lost?) = [] := rfl
    unfold recordsOfText
    rw [ha, happend, List.filterMap_append, List.filterMap_append, hblank, List.append_nil,
      List.map_append]

/-- A piece that ends in a comment, before one that starts as if it would close another. -/
theorem parse_append_comment_star :
    let a := ".a\x7bx\x7d /* \x7d */".toList
    let b := "*/ .b\x7by\x7d .c\x7bz".toList
    empty.parse (a ++ b) = (empty.parse a).parse b ∧
      recordsOfText (a ++ b) = recordsOfText a ++ recordsOfText b := by
  intro a b
  let c : Commented := ⟨[(".a\x7bx\x7d ".toList, " \x7d ".toList)], [], by decide⟩
  have htext : c.text = a := by decide +kernel
  have hclosed : Comment.AllClosed a := ⟨c, htext, by decide +kernel, by decide +kernel⟩
  have hstrip : Comment.strip a = ".a\x7bx\x7d ".toList := by
    rw [← htext]
    exact Commented.strip_text (by decide +kernel)
  have hcomplete : Block.Complete (Comment.strip a) := by
    rw [hstrip]
    exact Or.inr ⟨".a\x7bx".toList, " ".toList, by decide, by decide⟩
  exact parse_append empty hclosed hcomplete b

end Sheet
end Cascade
