import Cascade.Proofs.Sheet.Entries
import Cascade.Proofs.Sheet.History

/-!
# Names that a stylesheet text gives

A selector is trimmed, and passed over if it is blank, before its point is dropped.  So a point with
nothing or a blank behind it spoils the name, and nothing else does.
-/

namespace Cascade
open Text

/-! ## 1. Rules of a text -/

/-- Holds for the two sides of a rule: a block with this one opening brace and with something
behind it. -/
structure IsRuleOf (t selectors body : Text) : Prop where
  block : selectors ++ '{' :: body ∈ (Comment.strip t).splitOn '}'
  single_brace : '{' ∉ selectors ∧ '{' ∉ body
  body_not_blank : isBlankText body = false

/-- A selector is what stands between commas, trimmed, unless that is blank. -/
theorem Block.mem_selectorsOf_iff {selectors name : Text} :
    name ∈ selectorsOf selectors ↔ ∃ s ∈ selectors.splitOn ',', trim s = name ∧ name ≠ [] := by
  unfold selectorsOf
  simp only [List.mem_filter, List.mem_map, decide_eq_true_eq]
  constructor
  · rintro ⟨⟨s, hs, hname⟩, hne⟩
    exact ⟨s, hs, hname, hne⟩
  · rintro ⟨s, hs, hname, hne⟩
    exact ⟨⟨s, hs, hname⟩, hne⟩

namespace Sheet
variable {t : Text}

/-- A text defines the selectors of its rules, without the blank ones. -/
theorem mem_definitionsOfText_iff {e : Text × Text} :
    e ∈ definitionsOfText t ↔ ∃ selectors body, IsRuleOf t selectors body ∧
      ∃ s ∈ selectors.splitOn ',', isBlankText s = false ∧ e = (trim s, trim body) := by
  constructor
  · intro h
    obtain ⟨piece, hpiece, he⟩ := exists_piece_of_mem_definitionsOfText h
    obtain ⟨selectors, body, rfl, hselectors, hbody, ⟨s, hs, rfl⟩, hname, hne⟩ :=
      Block.exists_of_mem_definitions_ofText he
    have hrule : IsRuleOf t selectors body :=
      ⟨hpiece, ⟨hselectors, hbody⟩, trim_ne_nil_iff.1 hne⟩
    exact ⟨selectors, body, hrule, s, hs, trim_ne_nil_iff.1 hname, rfl⟩
  · rintro ⟨selectors, body, hrule, s, hs, hblank, rfl⟩
    -- A selector that is not blank keeps the whole side from being blank, so the block is a rule.
    obtain ⟨c, hcs, hc⟩ := List.all_eq_false.1 hblank
    have hselectors : isBlankText selectors = false :=
      List.all_eq_false.2 ⟨c, mem_of_mem_splitOn hs hcs, hc⟩
    have hblock : Block.ofText (selectors ++ '{' :: body) =
        .rule (Block.selectorsOf selectors) (trim body) :=
      Block.ofText_rule hrule.single_brace.1 hrule.single_brace.2 hselectors hrule.body_not_blank
    have hselector : trim s ∈ Block.selectorsOf selectors :=
      Block.mem_selectorsOf_iff.2 ⟨s, hs, rfl, trim_ne_nil_iff.2 hblank⟩
    refine List.mem_flatMap.2 ⟨_, List.mem_map.2 ⟨_, hrule.block, rfl⟩, ?_⟩
    rw [hblock]
    exact List.mem_map.2 ⟨trim s, hselector, rfl⟩

/-- The names are the selectors of the rules, each without its point. -/
theorem mem_names_ofText_iff {name : Text} :
    name ∈ (ofText t).names ↔ ∃ selectors body, IsRuleOf t selectors body ∧
      ∃ s ∈ selectors.splitOn ',', isBlankText s = false ∧ name = className (trim s) := by
  unfold ofText parse
  rw [mem_names_defineAll_iff]
  constructor
  · rintro ⟨e, he, rfl⟩
    obtain ⟨selectors, body, hrule, s, hs, hblank, rfl⟩ := mem_definitionsOfText_iff.1 he
    exact ⟨selectors, body, hrule, s, hs, hblank, rfl⟩
  · rintro ⟨selectors, body, hrule, s, hs, hblank, rfl⟩
    exact ⟨_, mem_definitionsOfText_iff.2 ⟨selectors, body, hrule, s, hs, hblank, rfl⟩, rfl⟩

end Sheet

/-! ## 2. Lone points -/

/-- A point with nothing behind it, or with a blank. -/
def IsLonePoint (selector : Text) : Prop :=
  ∃ rest, selector = '.' :: rest ∧ ∀ c ∈ rest.head?, isBlank c = true

def HasLonePoint (t : Text) : Prop :=
  ∃ selectors body, IsRuleOf t selectors body ∧ ∃ s ∈ selectors.splitOn ',', IsLonePoint (trim s)

/-- A lone point is not blank, so it is not passed over. -/
theorem isBlankText_of_isLonePoint_trim {s : Text} (h : IsLonePoint (trim s)) :
    isBlankText s = false := by
  obtain ⟨rest, hrest, -⟩ := h
  rw [← trim_ne_nil_iff, hrest]
  exact List.cons_ne_nil '.' rest

theorem isTrimmed_of_isTrimmed_cons {c : Char} {t : Text} (h : IsTrimmed (c :: t))
    (hhead : ∀ d ∈ t.head?, isBlank d = false) : IsTrimmed t := by
  refine ⟨hhead, ?_⟩
  intro d hd
  obtain ⟨front, rfl⟩ := List.getLast?_eq_some_iff.1 hd
  exact h.2 d (List.getLast?_eq_some_iff.2 ⟨c :: front, rfl⟩)

/-- Dropping the point of a selector leaves a trimmed name, unless the point is alone. -/
theorem isTrimmed_className_iff {selector : Text} (hne : selector ≠ [])
    (h : IsTrimmed selector) :
    (className selector ≠ [] ∧ IsTrimmed (className selector)) ↔ ¬ IsLonePoint selector := by
  -- A selector without a point is its own name.
  by_cases hpoint : selector.head? = some '.'
  · obtain ⟨rest, rfl⟩ := List.head?_eq_some_iff.1 hpoint
    show (rest ≠ [] ∧ IsTrimmed rest) ↔ _
    cases rest with
    | nil => exact iff_of_false (fun hname => hname.1 rfl) (fun hlone => hlone ⟨[], rfl, by simp⟩)
    | cons c others =>
      constructor
      · rintro ⟨-, hstart, -⟩ ⟨rest, heq, hrest⟩
        obtain rfl := (List.cons.inj heq).2
        exact Bool.eq_false_iff.1 (hstart c rfl) (hrest c rfl)
      · intro hlone
        have hc : isBlank c = false := by
          rw [← Bool.not_eq_true]
          intro hblank
          exact hlone ⟨c :: others, rfl, by simpa using hblank⟩
        exact ⟨List.cons_ne_nil c others, isTrimmed_of_isTrimmed_cons h (by simpa using hc)⟩
  · -- There is no point to drop.
    rw [className_of_head?_ne hpoint]
    refine iff_of_true ⟨hne, h⟩ ?_
    rintro ⟨rest, rfl, -⟩
    exact hpoint rfl

/-! ## 3. Usable names -/

namespace Sheet

/-- **Only a lone point gives a name that cannot be used.**  Of the classes that a text gives, no
name holds a comma or a brace or ends with a blank, and no body is empty, starts or ends with a
blank or holds a brace.  No name is empty or starts with a blank, either, exactly when no rule of
the text has a lone point among its selectors. -/
theorem usable_names_iff_no_lonePoint (t : Text) :
    (∀ name body, (name, body) ∈ (ofText t).classes →
        (',' ∉ name ∧ '{' ∉ name ∧ '}' ∉ name) ∧ (∀ c ∈ name.getLast?, isBlank c = false) ∧
          body ≠ [] ∧ IsTrimmed body ∧ '{' ∉ body ∧ '}' ∉ body) ∧
      ((∀ name ∈ (ofText t).names, name ≠ [] ∧ IsTrimmed name) ↔ ¬ HasLonePoint t) := by
  constructor
  · intro name body hmem
    have hentry : ReadEntry name body := readEntry_of_mem_classes hmem
    -- With its point the name is trimmed, and at the end it is the same without.
    have hend : ∀ c ∈ name.getLast?, isBlank c = false := by
      intro c hc
      obtain ⟨front, rfl⟩ := List.getLast?_eq_some_iff.1 hc
      exact (isTrimmed_of_trim_eq hentry.trim_name).2 c
        (List.getLast?_eq_some_iff.2 ⟨'.' :: front, rfl⟩)
    exact ⟨hentry.plain_name, hend, hentry.body_ne_nil, isTrimmed_of_trim_eq hentry.trim_body,
      hentry.plain_body⟩
  · have hname {s : Text} (hs : isBlankText s = false) :=
      isTrimmed_className_iff (trim_ne_nil_iff.2 hs) (isTrimmed_trim s)
    constructor
    · rintro husable ⟨selectors, body, hrule, s, hs, hlone⟩
      have hblank : isBlankText s = false := isBlankText_of_isLonePoint_trim hlone
      have hmem : className (trim s) ∈ (ofText t).names :=
        mem_names_ofText_iff.2 ⟨selectors, body, hrule, s, hs, hblank, rfl⟩
      exact (hname hblank).1 (husable _ hmem) hlone
    · intro hnone name hmem
      obtain ⟨selectors, body, hrule, s, hs, hblank, rfl⟩ := mem_names_ofText_iff.1 hmem
      exact (hname hblank).2 fun hlone => hnone ⟨selectors, body, hrule, s, hs, hlone⟩

/-- One rule has a lone point with a blank behind it and one with nothing, and the names of both
are among the others; without these selectors every name is usable. -/
theorem usable_names_iff_no_lonePoint_spoilt :
    let t := ".a/**/, . b c\x7b x \x7d d,.\x7by".toList
    let u := "..a, b c\x7b x \x7d d,\x7by".toList
    (ofText t).names = ["a".toList, " b c".toList, "d".toList, []] ∧ HasLonePoint t ∧
      ('{' ∉ " b c".toList ∧ IsTrimmed "x".toList) ∧
      (ofText u).names = [".a".toList, "b c".toList, "d".toList] ∧ ¬ HasLonePoint u ∧
      ∀ name ∈ (ofText u).names, name ≠ [] ∧ IsTrimmed name := by
  intro t u
  have hnames : (ofText t).names = ["a".toList, " b c".toList, "d".toList, []] := by
    decide +kernel
  have hnames' : (ofText u).names = [".a".toList, "b c".toList, "d".toList] := by
    decide +kernel
  have hclass : (" b c".toList, "x".toList) ∈ (ofText t).classes := by
    decide +kernel
  obtain ⟨hall, hlone⟩ := usable_names_iff_no_lonePoint t
  obtain ⟨-, hlone'⟩ := usable_names_iff_no_lonePoint u
  obtain ⟨⟨-, hbrace, -⟩, -, -, hbody, -⟩ := hall _ _ hclass
  have hchecked : (ofText u).names.all (fun name => name ≠ [] && trim name = name) = true := by
    decide +kernel
  have husable : ∀ name ∈ (ofText u).names, name ≠ [] ∧ IsTrimmed name := by
    intro name hname
    obtain ⟨hne, htrim⟩ := Bool.and_eq_true_iff.1 (List.all_eq_true.1 hchecked name hname)
    exact ⟨of_decide_eq_true hne, isTrimmed_of_trim_eq (of_decide_eq_true htrim)⟩
  have hempty : HasLonePoint t := by
    apply Classical.byContradiction
    intro hnone
    exact (hlone.2 hnone [] (by simp [hnames])).1 rfl
  exact ⟨hnames, hempty, ⟨hbrace, hbody⟩, hnames', hlone'.1 husable, husable⟩

end Sheet
end Cascade
