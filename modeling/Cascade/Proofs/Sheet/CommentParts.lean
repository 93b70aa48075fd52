import Cascade.Proofs.Sheet.Comments
import Mathlib.Logic.ExistsUnique

/-!
# The comments of a text

Every text is a text with comments in exactly one way, and stripping keeps what is between them.
-/

namespace Cascade

/-! ## 1. The first place of a pair -/

namespace Text

/-- A pair that stands at the start of a text stands in what precedes a later one. -/
theorem occursIn_pair_of_append_eq {a b : Char} (hab : a ≠ b) {s t rest : Text} (hs : s ≠ [])
    (h : s ++ a :: b :: t = a :: b :: rest) : occursIn [a, b] s = true := by
  cases s with
  | nil => exact absurd rfl hs
  | cons c s =>
    rw [List.cons_append, List.cons.injEq] at h
    obtain ⟨rfl, htail⟩ := h
    cases s with
    | nil =>
      rw [List.nil_append, List.cons.injEq] at htail
      exact absurd htail.1 hab
    | cons d s =>
      rw [List.cons_append, List.cons.injEq] at htail
      rw [htail.1]
      exact occursIn_iff.2 ⟨[], s, rfl⟩

/-- A pair of different characters has one first place in a text. -/
theorem append_pair_inj {a b : Char} (hab : a ≠ b) {s s' t t' : Text}
    (hs : occursIn [a, b] s = false) (hs' : occursIn [a, b] s' = false)
    (h : s ++ a :: b :: t = s' ++ a :: b :: t') : s = s' ∧ t = t' := by
  induction s generalizing s' with
  | nil =>
    by_cases hnil : s' = []
    · subst hnil
      rw [List.nil_append, List.nil_append, List.cons.injEq, List.cons.injEq] at h
      exact ⟨rfl, h.2.2⟩
    · rw [occursIn_pair_of_append_eq hab hnil h.symm] at hs'
      exact absurd hs' (by decide)
  | cons c s ih =>
    cases s' with
    | nil =>
      rw [occursIn_pair_of_append_eq hab (List.cons_ne_nil c s) h] at hs
      exact absurd hs (by decide)
    | cons c' s' =>
      -- The pair is at the start of neither side, so both go on with the same character.
      rw [List.cons_append, List.cons_append, List.cons.injEq] at h
      obtain ⟨rfl, htail⟩ := h
      have hrest := ih (occursIn_pair_cons_eq_false_iff.1 hs).2
        (occursIn_pair_cons_eq_false_iff.1 hs').2 htail
      exact ⟨by rw [hrest.1], hrest.2⟩

end Text

namespace Comment

theorem afterClose?_eq_none_iff {t : Text} : afterClose? t = none ↔ closesIn t = false := by
  fun_induction afterClose? t with
  | case1 => exact iff_of_true rfl rfl
  | case2 rest =>
    have hcloses : closesIn ('*' :: '/' :: rest) = true := Text.occursIn_iff.2 ⟨[], rest, rfl⟩
    rw [hcloses]
    exact iff_of_false (by simp) (by simp)
  | case3 c rest hpair ih =>
    unfold closesIn at ih ⊢
    rw [ih, Text.occursIn_pair_cons_eq_false_iff]
    refine (and_iff_right ?_).symm
    rintro ⟨rfl, hhead⟩
    obtain ⟨after, rfl⟩ := List.head?_eq_some_iff.1 hhead
    exact hpair after rfl rfl

/-- What is found is the first closing. -/
theorem exists_of_afterClose? {t after : Text} (h : afterClose? t = some after) :
    ∃ content, t = content ++ '*' :: '/' :: after ∧ closesIn content = false := by
  fun_induction afterClose? t with
  | case1 => exact absurd h (by simp)
  | case2 rest =>
    rw [Option.some.inj h]
    exact ⟨[], rfl, rfl⟩
  | case3 c rest hpair ih =>
    obtain ⟨content, rfl, hcontent⟩ := ih h
    refine ⟨c :: content, rfl, Text.occursIn_pair_cons_eq_false_iff.2 ⟨?_, hcontent⟩⟩
    -- A closing that starts with `c` would have ended the search.
    rintro ⟨rfl, hhead⟩
    obtain ⟨content', rfl⟩ := List.head?_eq_some_iff.1 hhead
    exact hpair _ rfl rfl

/-! ## 2. Texts without a comment -/

/-- No comment is complete: there is no opening, or nothing closes the first one. -/
def Uncommented (t : Text) : Prop :=
  opensIn t = false ∨ ∃ before content, t = before ++ '/' :: '*' :: content ∧
    opensIn before = false ∧ closesIn content = false

/-- Stripping leaves an opening that nothing closes, and all that comes after it. -/
theorem Uncommented.strip_eq {t : Text} (h : Uncommented t) : strip t = t := by
  obtain hopen | ⟨before, content, rfl, hbefore, hcontent⟩ := h
  · exact strip_of_not_opensIn hopen
  · have hstrip : strip ('/' :: '*' :: content) = '/' :: '*' :: content := by
      rw [strip]
      split
      · rename_i after hafter
        rw [afterClose?_eq_none_iff.2 hcontent] at hafter
        exact absurd hafter (by simp)
      · rfl
    rw [strip_append hbefore (by simp), hstrip]

theorem Uncommented.cons {c : Char} {t : Text} (h : Uncommented t)
    (hc : ¬ (c = '/' ∧ t.head? = some '*')) : Uncommented (c :: t) := by
  obtain hopen | ⟨before, content, rfl, hbefore, hcontent⟩ := h
  · exact Or.inl (Text.occursIn_pair_cons_eq_false_iff.2 ⟨hc, hopen⟩)
  · refine Or.inr ⟨c :: before, content, rfl, ?_, hcontent⟩
    refine Text.occursIn_pair_cons_eq_false_iff.2 ⟨?_, hbefore⟩
    rintro ⟨rfl, hhead⟩
    apply hc
    rw [List.head?_append, hhead]
    exact ⟨rfl, rfl⟩

/-- A whole comment is complete, whatever follows it. -/
theorem not_uncommented_withComment {part : Text × Text} (h : opensIn part.1 = false)
    (rest : Text) : ¬ Uncommented (Commented.withComment part ++ rest) := by
  obtain ⟨t, content⟩ := part
  have htext : Commented.withComment (t, content) ++ rest =
      t ++ '/' :: '*' :: (content ++ '*' :: '/' :: rest) := by
    unfold Commented.withComment
    simp
  rw [htext]
  rintro (hopen | ⟨before, content', heq, hbefore, hcontent⟩)
  · have hopens : opensIn (t ++ '/' :: '*' :: (content ++ '*' :: '/' :: rest)) = true :=
      Text.occursIn_iff.2 ⟨t, content ++ '*' :: '/' :: rest, by simp⟩
    rw [hopens] at hopen
    exact absurd hopen (by decide)
  · -- The opening that nothing closes would be the one of this comment.
    obtain ⟨-, rfl⟩ := Text.append_pair_inj (by decide) h hbefore heq
    have hcloses : closesIn (content ++ '*' :: '/' :: rest) = true :=
      Text.occursIn_iff.2 ⟨content, rest, by simp⟩
    rw [hcloses] at hcontent
    exact absurd hcontent (by decide)

theorem Uncommented.parts_eq_nil {parts : List (Text × Text)} {last : Text}
    (h : Uncommented (parts.flatMap Commented.withComment ++ last))
    (hopen : ∀ part ∈ parts, opensIn part.1 = false) : parts = [] := by
  cases parts with
  | nil => rfl
  | cons part parts =>
    rw [List.flatMap_cons, List.append_assoc] at h
    exact absurd h (not_uncommented_withComment (hopen part List.mem_cons_self) _)

end Comment

/-! ## 3. Taking a text apart -/

namespace Commented
open Comment

/-- The comments are all that the text has: no part opens one, and none is complete at the end. -/
structure Exact (c : Commented) : Prop where
  not_opensIn : ∀ part ∈ c.parts, opensIn part.1 = false
  uncommented : Uncommented c.last

theorem Exact.strip_text_eq {c : Commented} (h : c.Exact) : strip c.text = c.bare := by
  have hstrip := c.strip_text_append h.not_opensIn []
  rw [List.append_nil, List.append_nil, h.uncommented.strip_eq] at hstrip
  exact hstrip

/-- The text with a character in front of it. -/
theorem exists_exact_cons {d : Char} {c : Commented} (h : c.Exact)
    (hd : ¬ (d = '/' ∧ c.text.head? = some '*')) :
    ∃ c' : Commented, c'.text = d :: c.text ∧ c'.Exact := by
  obtain ⟨parts, last, hclosed⟩ := c
  cases parts with
  | nil => exact ⟨⟨[], d :: last, by simp⟩, rfl, by simp, h.uncommented.cons hd⟩
  | cons part parts =>
    -- The character joins the first part, and would open a comment only together with its head.
    obtain ⟨t, content⟩ := part
    have ht : opensIn t = false := h.not_opensIn (t, content) List.mem_cons_self
    have hdt : opensIn (d :: t) = false := by
      refine Text.occursIn_pair_cons_eq_false_iff.2 ⟨?_, ht⟩
      rintro ⟨rfl, hhead⟩
      apply hd
      obtain ⟨t', rfl⟩ := List.head?_eq_some_iff.1 hhead
      exact ⟨rfl, rfl⟩
    refine ⟨⟨(d :: t, content) :: parts, last, ?_⟩, rfl, ?_, h.uncommented⟩
    · exact List.forall_mem_cons.2 (List.forall_mem_cons.1 hclosed)
    · exact List.forall_mem_cons.2 ⟨hdt, (List.forall_mem_cons.1 h.not_opensIn).2⟩

/-- Every text can be taken apart. -/
theorem exists_exact (t : Text) : ∃ c : Commented, c.text = t ∧ c.Exact := by
  -- Along the course of stripping, which meets the comments one after the other.
  fun_induction strip t with
  | case1 => exact ⟨⟨[], [], by simp⟩, rfl, by simp, Or.inl rfl⟩
  | case2 rest after hafter ih =>
    obtain ⟨content, rfl, hcontent⟩ := exists_of_afterClose? hafter
    obtain ⟨⟨parts, last, hclosed⟩, rfl, hexact⟩ := ih
    refine ⟨⟨([], content) :: parts, last, List.forall_mem_cons.2 ⟨hcontent, hclosed⟩⟩, ?_, ?_,
      hexact.uncommented⟩
    · simp [text, withComment]
    · exact List.forall_mem_cons.2 ⟨rfl, hexact.not_opensIn⟩
  | case3 rest hafter =>
    have hcontent : closesIn rest = false := afterClose?_eq_none_iff.1 hafter
    exact ⟨⟨[], '/' :: '*' :: rest, by simp⟩, rfl, by simp, Or.inr ⟨[], rest, rfl, rfl, hcontent⟩⟩
  | case4 d rest hpair ih =>
    obtain ⟨c, rfl, hexact⟩ := ih
    apply exists_exact_cons hexact
    rintro ⟨rfl, hhead⟩
    obtain ⟨content, hcontent⟩ := List.head?_eq_some_iff.1 hhead
    exact hpair content rfl hcontent

/-- The first part and the content of its comment are determined by the text. -/
theorem eq_of_withComment_append_eq {part part' : Text × Text} {rest rest' : Text}
    (hopen : opensIn part.1 = false) (hopen' : opensIn part'.1 = false)
    (hclose : closesIn part.2 = false) (hclose' : closesIn part'.2 = false)
    (h : withComment part ++ rest = withComment part' ++ rest') : part = part' ∧ rest = rest' := by
  obtain ⟨t, content⟩ := part
  obtain ⟨t', content'⟩ := part'
  simp only [withComment, List.append_assoc, List.cons_append, List.nil_append] at h
  -- The opening comes first on both sides, and then the closing of what it opens.
  obtain ⟨rfl, hcontent⟩ := Text.append_pair_inj (by decide) hopen hopen' h
  obtain ⟨rfl, rfl⟩ := Text.append_pair_inj (by decide) hclose hclose' hcontent
  exact ⟨rfl, rfl⟩

/-- There is only one way to take a text apart. -/
theorem Exact.eq_of_text_eq {c d : Commented} (hc : c.Exact) (hd : d.Exact)
    (h : c.text = d.text) : c = d := by
  obtain ⟨parts, last, hclosed⟩ := c
  obtain ⟨parts', last', hclosed'⟩ := d
  suffices hsame : parts = parts' ∧ last = last' by
    obtain ⟨rfl, rfl⟩ := hsame
    rfl
  unfold text at h
  -- Comment by comment, each of which is the first one of what is left of the text.
  induction parts generalizing parts' with
  | nil =>
    have hlast : Uncommented (parts'.flatMap withComment ++ last') := h ▸ hc.uncommented
    cases hlast.parts_eq_nil hd.not_opensIn
    exact ⟨rfl, h⟩
  | cons part parts ih =>
    cases parts' with
    | nil =>
      have hlast : Uncommented ((part :: parts).flatMap withComment ++ last) :=
        h.symm ▸ hd.uncommented
      exact absurd (hlast.parts_eq_nil hc.not_opensIn) (List.cons_ne_nil part parts)
    | cons part' parts' =>
      obtain ⟨hopen, hopens⟩ := List.forall_mem_cons.1 hc.not_opensIn
      obtain ⟨hopen', hopens'⟩ := List.forall_mem_cons.1 hd.not_opensIn
      obtain ⟨hclose, hcloses⟩ := List.forall_mem_cons.1 hclosed
      obtain ⟨hclose', hcloses'⟩ := List.forall_mem_cons.1 hclosed'
      dsimp only at h
      rw [List.flatMap_cons, List.flatMap_cons, List.append_assoc, List.append_assoc] at h
      obtain ⟨rfl, hrest⟩ := eq_of_withComment_append_eq hopen hopen' hclose hclose' h
      obtain ⟨rfl, hlast⟩ := ih hcloses ⟨hopens, hc.uncommented⟩ parts' hcloses'
        ⟨hopens', hd.uncommented⟩ hrest
      exact ⟨rfl, hlast⟩

/-- **Stripping takes away the comments and nothing else.**  A text consists of parts that open no
comment, of a whole comment after each of them, and of an end where no comment is complete.  It does
so in exactly one way, and stripping leaves the parts and the end. -/
theorem existsUnique_commented (t : Text) :
    (∃! c : Commented, c.text = t ∧ c.Exact) ∧
      ∀ c : Commented, c.text = t ∧ c.Exact → strip t = c.bare := by
  constructor
  · obtain ⟨c, htext, hexact⟩ := exists_exact t
    refine ⟨c, ⟨htext, hexact⟩, ?_⟩
    rintro d ⟨rfl, hexact'⟩
    exact hexact'.eq_of_text_eq hexact htext.symm
  · rintro c ⟨rfl, hexact⟩
    exact hexact.strip_text_eq

/-- A slash before a comment and a star after it are no opening, neither in the text nor once they
have come together; and in the last three characters the star does not close what it opens. -/
theorem strip_slash_comment_star :
    let c : Commented := ⟨[("/".toList, [])], "*y*/ /*/".toList, by decide⟩
    let t := "//**/*y*/ /*/".toList
    (c.text = t ∧ c.Exact) ∧ Comment.strip t = "/*y*/ /*/".toList := by
  intro c t
  have htext : c.text = t := by decide +kernel
  have hexact : c.Exact := by
    constructor
    · decide +kernel
    · exact Or.inr ⟨"*y*/ ".toList, "/".toList, by decide, by decide +kernel, by decide +kernel⟩
  have hstrip := (existsUnique_commented t).2 c ⟨htext, hexact⟩
  rw [hstrip]
  exact ⟨⟨htext, hexact⟩, by decide +kernel⟩

end Commented
end Cascade
