import Cascade.Proofs.Text.Trimming
import Cascade.Sheet.Block

/-!
# Blocks, one after the other

Without its comments a stylesheet is a run of blocks, each ended by a closing brace, of which only
those of one opening brace between texts that are not blank define anything.
-/

namespace Cascade.Block
open Text

/-! ## 1. Lists of blocks -/

def listOfBare (t : Text) : List Block := (t.splitOn '}').map ofText

theorem listOfBare_strip (t : Text) : listOfBare (Comment.strip t) = listOfText t := rfl

/-- The blocks of joined texts are those of the texts. -/
theorem listOfBare_append_cons (a b : Text) :
    listOfBare (a ++ '}' :: b) = listOfBare a ++ listOfBare b := by
  unfold listOfBare
  rw [List.splitOn_append_cons_self, List.map_append]

theorem listOfBare_of_not_mem {t : Text} (h : '}' ∉ t) : listOfBare t = [ofText t] := by
  unfold listOfBare
  rw [List.splitOn_eq_singleton h, List.map_singleton]

/-- What stands before the first closing brace is one block. -/
theorem definitions_listOfBare_closed {t : Text} (h : '}' ∉ t) (rest : Text) :
    (listOfBare (t ++ ['}'] ++ rest)).flatMap definitions =
      (ofText t).definitions ++ (listOfBare rest).flatMap definitions := by
  rw [List.append_assoc, List.singleton_append, listOfBare_append_cons, listOfBare_of_not_mem h,
    List.singleton_append, List.flatMap_cons]

/-- Blanks in front of a block are trimmed away. -/
theorem ofText_append_left {blank : Text} (h : isBlankText blank = true) (t : Text) :
    ofText (blank ++ t) = ofText t := by
  obtain ⟨first, pieces, ht, hblank⟩ :=
    exists_splitOn_append_left (not_mem_of_isBlankText (by decide : isBlank '{' = false) h) t
  unfold ofText
  rw [ht, hblank]
  -- Whichever of the three it is, only trimmed texts are looked at.
  match pieces with
  | [] => simp only [trim_append_left h]
  | [body] => simp only [trim_append_left h]
  | _ :: _ :: _ => simp only [trim_append_left h]

theorem ofText_of_isBlankText {t : Text} (h : isBlankText t = true) : ofText t = blank := by
  have hofText := ofText_append_left h []
  rw [List.append_nil] at hofText
  exact hofText

/-- Blanks in front of a stylesheet belong to its first block. -/
theorem listOfBare_append_of_isBlankText {blank : Text} (h : isBlankText blank = true) (t : Text) :
    listOfBare (blank ++ t) = listOfBare t := by
  obtain ⟨first, pieces, ht, hblank⟩ :=
    exists_splitOn_append_left (not_mem_of_isBlankText (by decide : isBlank '}' = false) h) t
  unfold listOfBare
  rw [ht, hblank, List.map_cons, List.map_cons, ofText_append_left h]

/-! ## 2. Rules -/

theorem selectorsOf_trim (t : Text) : selectorsOf (trim t) = selectorsOf t := by
  unfold selectorsOf
  rw [map_trim_splitOn_trim (by decide)]

theorem selectorsOf_of_not_mem {t : Text} (h : ',' ∉ t) :
    selectorsOf t = if trim t = [] then [] else [trim t] := by
  unfold selectorsOf
  rw [List.splitOn_eq_singleton h, List.map_singleton]
  by_cases ht : trim t = []
  · rw [if_pos ht, ht]
    rfl
  · rw [if_neg ht, List.filter_cons_of_pos (by simp [ht]), List.filter_nil]

/-- Selectors are read back from their list, trimmed and without the blank ones. -/
theorem selectorsOf_intercalate {selectors : List Text} (h : ∀ s ∈ selectors, ',' ∉ s) :
    selectorsOf (List.intercalate [','] selectors) =
      (selectors.filter fun s => !isBlankText s).map trim := by
  have happend (a b : Text) : selectorsOf (a ++ ',' :: b) = selectorsOf a ++ selectorsOf b := by
    unfold selectorsOf
    rw [List.splitOn_append_cons_self, List.map_append, List.filter_append]
  have hnil : selectorsOf [] = [] := rfl
  rw [read_intercalate hnil happend]
  induction selectors with
  | nil => rfl
  | cons s rest ih =>
    rw [List.flatMap_cons, ih fun other hother => h other (List.mem_cons_of_mem s hother),
      selectorsOf_of_not_mem (h s List.mem_cons_self)]
    by_cases hs : isBlankText s = true
    · rw [if_pos (trim_eq_nil_iff.2 hs), List.filter_cons_of_neg (by simp [hs])]
      rfl
    · rw [if_neg fun htrim => hs (trim_eq_nil_iff.1 htrim),
        List.filter_cons_of_pos (by simp [hs]), List.map_cons]
      rfl

theorem splitOn_rule {selectors body : Text} (hselectors : '{' ∉ selectors) (hbody : '{' ∉ body) :
    (selectors ++ '{' :: body).splitOn '{' = [selectors, body] := by
  rw [List.splitOn_append_cons_self, List.splitOn_eq_singleton hselectors,
    List.splitOn_eq_singleton hbody, List.singleton_append]

/-- One opening brace between two texts that are not blank makes a rule. -/
theorem ofText_rule {selectors body : Text} (hselectors : '{' ∉ selectors) (hbody : '{' ∉ body)
    (hselectors' : isBlankText selectors = false) (hbody' : isBlankText body = false) :
    ofText (selectors ++ '{' :: body) = rule (selectorsOf selectors) (trim body) := by
  unfold ofText
  rw [splitOn_rule hselectors hbody]
  simp only [trim_ne_nil_iff.2 hselectors', trim_ne_nil_iff.2 hbody', decide_false, Bool.or_self,
    Bool.false_eq_true, if_false, selectorsOf_trim]

/-- With a blank side the block is passed over. -/
theorem ofText_eq_blank {selectors body : Text} (hselectors : '{' ∉ selectors)
    (hbody : '{' ∉ body) (h : isBlankText selectors = true ∨ isBlankText body = true) :
    ofText (selectors ++ '{' :: body) = blank := by
  unfold ofText
  rw [splitOn_rule hselectors hbody]
  rcases h with h | h
  · simp [trim_eq_nil_iff.2 h]
  · simp [trim_eq_nil_iff.2 h]

/-- With no opening brace, or with several, a block defines nothing. -/
theorem definitions_ofText_of_count_ne_one {t : Text} (h : t.count '{' ≠ 1) :
    (ofText t).definitions = [] := by
  have hlength : (t.splitOn '{').length ≠ 2 := by
    rw [length_splitOn]
    omega
  unfold ofText
  split
  · rename_i hsplit
    rw [hsplit] at hlength
    exact absurd rfl hlength
  · split
    · rfl
    · rfl

end Cascade.Block
