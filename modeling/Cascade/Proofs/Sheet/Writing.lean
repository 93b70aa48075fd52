import Cascade.Proofs.Sheet.Blocks
import Cascade.Proofs.Sheet.Comments
import Cascade.Sheet.Reading

/-!
# Reading a written stylesheet

A stylesheet written as rules and other blocks, with comments put anywhere, defines its rules.
-/

namespace Cascade
open Text

/-! ## 1. Items -/

/-- A rule as it is written: selectors for a list with commas, not all of them blank, and a body
for braces. -/
structure Rule where
  selectors : List Text
  body : Text
  plain_selectors : ∀ s ∈ selectors, ',' ∉ s ∧ '{' ∉ s ∧ '}' ∉ s
  selects : ∃ s ∈ selectors, isBlankText s = false
  plain_body : '{' ∉ body ∧ '}' ∉ body
  body_not_blank : isBlankText body = false

/-- What may stand before a closing brace without being a rule: it has another number of opening
braces than one, or a blank side. -/
structure Debris where
  text : Text
  not_closed : '}' ∉ text
  no_rule : text.count '{' ≠ 1 ∨ ∃ before after, text = before ++ '{' :: after ∧
    (isBlankText before = true ∨ isBlankText after = true)

inductive Item where
  | rule (r : Rule)
  | debris (d : Debris)

namespace Rule

/-- The selectors and the body, up to the closing brace. -/
def text (r : Rule) : Text := List.intercalate [','] r.selectors ++ '{' :: r.body

def definitions (r : Rule) : List (Text × Text) :=
  (r.selectors.filter fun s => !isBlankText s).map fun s => (trim s, trim r.body)

theorem not_mem_selectors {r : Rule} {c : Char} (hc : c ≠ ',') (h : ∀ s ∈ r.selectors, c ∉ s) :
    c ∉ List.intercalate [','] r.selectors := by
  intro hmem
  obtain ⟨s, hs, hcs⟩ := (mem_intercalate_iff (by simpa using hc)).1 hmem
  exact h s hs hcs

/-- One selector that is not blank is enough for the list. -/
theorem selectors_not_blank (r : Rule) :
    isBlankText (List.intercalate [','] r.selectors) = false := by
  obtain ⟨s, hs, hblank⟩ := r.selects
  obtain ⟨c, hcs, hc⟩ := List.all_eq_false.1 hblank
  -- A character that is no blank is found again in the list, as it is no comma.
  have hcomma : c ∉ [','] := by
    intro hmem
    rw [List.mem_singleton.1 hmem] at hcs
    exact (r.plain_selectors s hs).1 hcs
  exact List.all_eq_false.2 ⟨c, (mem_intercalate_iff hcomma).2 ⟨s, hs, hcs⟩, hc⟩

theorem not_closed (r : Rule) : '}' ∉ r.text := by
  unfold text
  rw [List.mem_append, List.mem_cons]
  rintro (hmem | heq | hmem)
  · exact not_mem_selectors (by decide) (fun s hs => (r.plain_selectors s hs).2.2) hmem
  · exact absurd heq (by decide)
  · exact r.plain_body.2 hmem

theorem definitions_ofText (r : Rule) : (Block.ofText r.text).definitions = r.definitions := by
  have hbrace : '{' ∉ List.intercalate [','] r.selectors :=
    not_mem_selectors (by decide) fun s hs => (r.plain_selectors s hs).2.1
  unfold text
  rw [Block.ofText_rule hbrace r.plain_body.1 r.selectors_not_blank r.body_not_blank,
    Block.selectorsOf_intercalate fun s hs => (r.plain_selectors s hs).1]
  exact List.map_map

end Rule

/-- Debris defines nothing. -/
theorem Debris.definitions_ofText (d : Debris) : (Block.ofText d.text).definitions = [] := by
  by_cases hcount : d.text.count '{' = 1
  · obtain hne | ⟨before, after, heq, hblank⟩ := d.no_rule
    · exact absurd hcount hne
    · -- One brace in the whole leaves none for the sides.
      rw [heq, List.count_append, List.count_cons_self] at hcount
      have hbefore : '{' ∉ before := List.count_eq_zero.1 (by omega)
      have hafter : '{' ∉ after := List.count_eq_zero.1 (by omega)
      rw [heq, Block.ofText_eq_blank hbefore hafter hblank]
      rfl
  · exact Block.definitions_ofText_of_count_ne_one hcount

namespace Item

def text : Item → Text
  | rule r => r.text ++ ['}']
  | debris d => d.text ++ ['}']

def definitions : Item → List (Text × Text)
  | rule r => r.definitions
  | debris _ => []

/-! ## 2. Reading -/

/-- An item is a block of its own, and defines what it should. -/
theorem definitions_listOfBare (item : Item) (rest : Text) :
    (Block.listOfBare (item.text ++ rest)).flatMap Block.definitions =
      item.definitions ++ (Block.listOfBare rest).flatMap Block.definitions := by
  cases item with
  | rule r =>
    unfold text definitions
    rw [Block.definitions_listOfBare_closed r.not_closed, r.definitions_ofText]
  | debris d =>
    unfold text definitions
    rw [Block.definitions_listOfBare_closed d.not_closed, d.definitions_ofText]

theorem definitions_listOfBare_flatMap (items : List Item) :
    (Block.listOfBare (items.flatMap text)).flatMap Block.definitions =
      items.flatMap definitions := by
  induction items with
  | nil => rfl
  | cons item rest ih =>
    rw [List.flatMap_cons, List.flatMap_cons, definitions_listOfBare, ih]

end Item

namespace Sheet

/-- Comments make no difference to what a text defines. -/
theorem definitionsOfText_commented {t : Commented} (h : Comment.opensIn t.bare = false) :
    definitionsOfText t.text = (Block.listOfBare t.bare).flatMap Block.definitions := by
  unfold definitionsOfText
  rw [← Block.listOfBare_strip, Commented.strip_text h]

/-- **Reading undoes writing.**  A stylesheet that is written as a sequence of items, without an
opening of a comment in it, and then has comments put into it at any places, defines each selector
of its rules that is not blank, in their order and under the body of its rule. -/
theorem parse_written (s : Sheet) (items : List Item) (t : Commented)
    (hbare : t.bare = items.flatMap Item.text) (hopen : Comment.opensIn t.bare = false) :
    s.parse t.text = s.defineAll (items.flatMap Item.definitions) := by
  unfold parse
  rw [definitionsOfText_commented hopen, hbare, Item.definitions_listOfBare_flatMap]

/-- A nested rule is debris up to its first closing brace, and what a comment holds, be it braces
or another opening, does not matter even inside of a name. -/
theorem classes_parse_nested :
    let items : List Item := [
      .rule ⟨[".a".toList, " ".toList, "\t.b".toList], " color: red ".toList,
        by decide, by decide, by decide, by decide⟩,
      .debris ⟨"@media \x7b .c \x7b x".toList, by decide, Or.inl (by decide)⟩,
      .rule ⟨[".d".toList], "y".toList, by decide, by decide, by decide, by decide⟩]
    let t : Commented := ⟨[(".".toList, "\x7d .x \x7b".toList),
      ("a, ,\t.b\x7b color: red \x7d@media \x7b .c \x7b x\x7d.".toList, "/*,*".toList)],
      "d\x7by\x7d".toList, by decide⟩
    t.bare = items.flatMap Item.text ∧ Comment.opensIn t.bare = false ∧
      (empty.parse t.text).classes = [("a".toList, "color: red".toList),
        ("b".toList, "color: red".toList), ("d".toList, "y".toList)] := by
  intro items t
  have hbare : t.bare = items.flatMap Item.text := by decide +kernel
  have hopen : Comment.opensIn t.bare = false := by decide +kernel
  refine ⟨hbare, hopen, ?_⟩
  rw [parse_written empty items t hbare hopen]
  decide +kernel

end Sheet
end Cascade
