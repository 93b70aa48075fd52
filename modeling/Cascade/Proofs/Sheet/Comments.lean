import Cascade.Sheet.Comment

/-!
# Texts with comments

Comments are put between the parts of a text and stripped again.  Nothing goes wrong at the seams,
as a slash before a comment is followed by the slash that opens it.
-/

namespace Cascade

/-! ## 1. Openings and closings -/

namespace Text

/-- A pair that does not start a text occurs in the rest of it or not at all. -/
theorem occursIn_pair_cons_eq_false_iff {a b c : Char} {t : Text} :
    occursIn [a, b] (c :: t) = false ↔
      ¬ (c = a ∧ t.head? = some b) ∧ occursIn [a, b] t = false := by
  rw [occursIn, Bool.or_eq_false_iff]
  apply and_congr_left
  intro _
  cases t with
  | nil => simp [List.isPrefixOf]
  | cons d t => grind [List.isPrefixOf]

/-- A pair of characters that is in neither of two texts may still come about where they meet. -/
theorem occursIn_pair_append {a b : Char} {s t : Text} (hs : occursIn [a, b] s = false)
    (ht : occursIn [a, b] t = false) (hseam : ¬ (s.getLast? = some a ∧ t.head? = some b)) :
    occursIn [a, b] (s ++ t) = false := by
  induction s with
  | nil => exact ht
  | cons c s ih =>
    obtain ⟨hc, hs'⟩ := occursIn_pair_cons_eq_false_iff.1 hs
    rw [List.cons_append, occursIn_pair_cons_eq_false_iff]
    cases s with
    | nil =>
      refine ⟨?_, ht⟩
      rintro ⟨rfl, hhead⟩
      exact hseam ⟨rfl, hhead⟩
    | cons d s =>
      refine ⟨hc, ih hs' ?_⟩
      rintro ⟨hlast, hhead⟩
      exact hseam ⟨by rw [List.getLast?_cons_cons, hlast], hhead⟩

theorem occursIn_append_left {part a : Text} (h : occursIn part a = true) (b : Text) :
    occursIn part (a ++ b) = true := by
  obtain ⟨before, after, rfl⟩ := occursIn_iff.1 h
  exact occursIn_iff.2 ⟨before, after ++ b, List.append_assoc _ _ _⟩

theorem occursIn_append_right {part b : Text} (h : occursIn part b = true) (a : Text) :
    occursIn part (a ++ b) = true := by
  obtain ⟨before, after, rfl⟩ := occursIn_iff.1 h
  exact occursIn_iff.2 ⟨a ++ before, after, by simp only [List.append_assoc]⟩

theorem occursIn_eq_false_of_append {part a b : Text} (h : occursIn part (a ++ b) = false) :
    occursIn part a = false ∧ occursIn part b = false := by
  rw [Bool.eq_false_iff] at h
  constructor
  · exact Bool.eq_false_iff.2 fun ha => h (occursIn_append_left ha b)
  · exact Bool.eq_false_iff.2 fun hb => h (occursIn_append_right hb a)

end Text

namespace Comment

def opensIn (t : Text) : Bool := Text.occursIn ['/', '*'] t

def closesIn (t : Text) : Bool := Text.occursIn ['*', '/'] t

/-- A comment ends at the first closing. -/
theorem afterClose?_append {content : Text} (h : closesIn content = false) (rest : Text) :
    afterClose? (content ++ '*' :: '/' :: rest) = some rest := by
  induction content with
  | nil => rw [List.nil_append, afterClose?]
  | cons c content ih =>
    obtain ⟨hc, hcontent⟩ := Text.occursIn_pair_cons_eq_false_iff.1 h
    rw [List.cons_append, afterClose?, ih hcontent]
    -- The content does not close here, and neither does its last character with the closing star.
    rintro after rfl hafter
    apply hc
    refine ⟨rfl, ?_⟩
    cases content with
    | nil => simp at hafter
    | cons d content =>
      rw [List.cons_append, List.cons.injEq] at hafter
      rw [hafter.1, List.head?_cons]

/-- A whole comment at the start of a text is taken away. -/
theorem strip_comment {content : Text} (h : closesIn content = false) (rest : Text) :
    strip ('/' :: '*' :: (content ++ '*' :: '/' :: rest)) = strip rest := by
  rw [strip]
  split
  · rename_i after hafter
    rw [afterClose?_append h] at hafter
    rw [Option.some.inj hafter]
  · rename_i hnone
    rw [afterClose?_append h] at hnone
    exact absurd hnone (by simp)

/-- A character that opens no comment stays. -/
theorem strip_cons {c : Char} {t : Text} (h : ¬ (c = '/' ∧ t.head? = some '*')) :
    strip (c :: t) = c :: strip t := by
  rw [strip]
  rintro rest rfl rfl
  exact h ⟨rfl, List.head?_cons⟩

/-- A text without an opening stays, unless what follows completes one at its end. -/
theorem strip_append {t : Text} (h : opensIn t = false) {rest : Text}
    (hseam : ¬ (t.getLast? = some '/' ∧ rest.head? = some '*')) :
    strip (t ++ rest) = t ++ strip rest := by
  induction t with
  | nil => rfl
  | cons c t ih =>
    obtain ⟨hc, ht⟩ := Text.occursIn_pair_cons_eq_false_iff.1 h
    cases t with
    | nil =>
      rw [List.singleton_append, List.singleton_append, strip_cons]
      rintro ⟨rfl, hrest⟩
      exact hseam ⟨rfl, hrest⟩
    | cons d t =>
      have hnext : ¬ (c = '/' ∧ (d :: t ++ rest).head? = some '*') := hc
      rw [List.cons_append, strip_cons hnext, ih ht]
      · rfl
      · rintro ⟨hlast, hrest⟩
        exact hseam ⟨by rw [List.getLast?_cons_cons, hlast], hrest⟩

theorem strip_of_not_opensIn {t : Text} (h : opensIn t = false) : strip t = t := by
  have hseam : ¬ (t.getLast? = some '/' ∧ ([] : Text).head? = some '*') := by simp
  have hstrip := strip_append h hseam
  rw [List.append_nil] at hstrip
  rw [hstrip, strip, List.append_nil]

theorem mem_of_mem_afterClose? {c : Char} {t rest : Text} (h : afterClose? t = some rest)
    (hc : c ∈ rest) : c ∈ t := by
  fun_induction afterClose? t with
  | case1 => exact absurd h (by simp)
  | case2 r =>
    rw [Option.some.inj h]
    exact List.mem_cons_of_mem _ (List.mem_cons_of_mem _ hc)
  | case3 d r _ ih => exact List.mem_cons_of_mem d (ih h)

/-- Stripping takes characters away and adds none. -/
theorem mem_of_mem_strip {c : Char} {t : Text} (h : c ∈ strip t) : c ∈ t := by
  fun_induction strip t with
  | case1 => exact h
  | case2 rest after hafter ih =>
    exact List.mem_cons_of_mem _ (List.mem_cons_of_mem _ (mem_of_mem_afterClose? hafter (ih h)))
  | case3 rest hafter => exact h
  | case4 d rest _ ih =>
    rcases List.mem_cons.1 h with rfl | hrest
    · exact List.mem_cons_self
    · exact List.mem_cons_of_mem d (ih hrest)

end Comment

/-! ## 2. Texts with comments -/

/-- The parts of a text, each with the content of the comment after it, and what follows the last
comment.  A content holds no closing, since it would end there. -/
structure Commented where
  parts : List (Text × Text)
  last : Text
  closed : ∀ part ∈ parts, Comment.closesIn part.2 = false

namespace Commented
open Comment

def withComment : Text × Text → Text
  | (part, content) => part ++ '/' :: '*' :: (content ++ ['*', '/'])

def text (t : Commented) : Text := t.parts.flatMap withComment ++ t.last

def bare (t : Commented) : Text := t.parts.flatMap Prod.fst ++ t.last

theorem strip_withComment {part : Text × Text} (hpart : opensIn part.1 = false)
    (hcontent : closesIn part.2 = false) (rest : Text) :
    strip (withComment part ++ rest) = part.1 ++ strip rest := by
  obtain ⟨t, content⟩ := part
  unfold withComment
  rw [List.append_assoc, strip_append hpart]
  · rw [List.cons_append, List.cons_append, List.append_assoc]
    exact congrArg (t ++ ·) (strip_comment hcontent rest)
  · simp

/-- Comment by comment, the parts are left, and what follows the text is stripped with its end. -/
theorem strip_text_append (t : Commented) (h : ∀ part ∈ t.parts, opensIn part.1 = false)
    (rest : Text) :
    strip (t.text ++ rest) = t.parts.flatMap Prod.fst ++ strip (t.last ++ rest) := by
  obtain ⟨parts, last, hclosed⟩ := t
  unfold text
  rw [List.append_assoc]
  dsimp only at h ⊢
  induction parts with
  | nil => rfl
  | cons part parts ih =>
    rw [List.flatMap_cons, List.flatMap_cons, List.append_assoc, List.append_assoc,
      strip_withComment (h part List.mem_cons_self) (hclosed part List.mem_cons_self),
      ih (fun other hother => hclosed other (List.mem_cons_of_mem part hother))
        fun other hother => h other (List.mem_cons_of_mem part hother)]

/-- Comments can be put anywhere into a text that opens none. -/
theorem strip_text {t : Commented} (h : opensIn t.bare = false) : strip t.text = t.bare := by
  obtain ⟨hparts, hlast⟩ := Text.occursIn_eq_false_of_append h
  have hpart : ∀ part ∈ t.parts, opensIn part.1 = false := by
    intro part hmem
    obtain ⟨before, after, heq⟩ := List.append_of_mem hmem
    rw [heq, List.flatMap_append, List.flatMap_cons] at hparts
    have hrest := (Text.occursIn_eq_false_of_append hparts).2
    exact (Text.occursIn_eq_false_of_append hrest).1
  have hstrip := t.strip_text_append hpart []
  rw [List.append_nil, List.append_nil, strip_of_not_opensIn hlast] at hstrip
  exact hstrip

end Commented
end Cascade
