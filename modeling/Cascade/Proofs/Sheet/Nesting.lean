import Cascade.Proofs.Sheet.Blocks
import Cascade.Proofs.Sheet.Comments
import Cascade.Proofs.Sheet.History

/-!
# Nested rules

A stylesheet knows no nesting, so of the rules inside of an outer block only the first is lost: it
shares its block with the header.
-/

namespace Cascade
open Text

/-! ## 1. Rules as texts -/

structure IsRuleSide (t : Text) : Prop where
  braces_not_mem : '{' ∉ t ∧ '}' ∉ t
  not_blank : isBlankText t = false
  not_opensIn : Comment.opensIn t = false

instance (t : Text) : Decidable (IsRuleSide t) :=
  decidable_of_iff
    (('{' ∉ t ∧ '}' ∉ t) ∧ isBlankText t = false ∧ Comment.opensIn t = false)
    ⟨fun h => ⟨h.1, h.2.1, h.2.2⟩, fun h => ⟨h.braces_not_mem, h.not_blank, h.not_opensIn⟩⟩

/-- A rule as any two texts that make one. -/
structure RuleText where
  selectors : Text
  body : Text
  isRuleSide_selectors : IsRuleSide selectors
  isRuleSide_body : IsRuleSide body

/-- A character other than a slash and a star keeps two texts apart. -/
theorem Comment.opensIn_append_cons {a b : Text} {c : Char} (ha : opensIn a = false)
    (hb : opensIn b = false) (hslash : c ≠ '/') (hstar : c ≠ '*') :
    opensIn (a ++ c :: b) = false := by
  have hcons : opensIn (c :: b) = false :=
    occursIn_pair_cons_eq_false_iff.2 ⟨fun h => hslash h.1, hb⟩
  refine occursIn_pair_append ha hcons ?_
  rintro ⟨-, hhead⟩
  exact hstar (Option.some.inj hhead)

theorem Comment.opensIn_of_isBlankText {t : Text} (h : isBlankText t = true) :
    opensIn t = false := by
  rw [Bool.eq_false_iff]
  intro hopen
  obtain ⟨before, after, rfl⟩ := occursIn_iff.1 hopen
  exact not_mem_of_isBlankText (by decide : isBlank '/' = false) h (by simp)

namespace RuleText

def text (r : RuleText) : Text := r.selectors ++ '{' :: (r.body ++ ['}'])

def definitions (r : RuleText) : List (Text × Text) :=
  (Block.selectorsOf r.selectors).map (·, trim r.body)

theorem text_append (r : RuleText) (rest : Text) :
    r.text ++ rest = r.selectors ++ '{' :: r.body ++ ['}'] ++ rest := by
  unfold text
  simp

theorem opensIn_text_append (r : RuleText) {rest : Text} (h : Comment.opensIn rest = false) :
    Comment.opensIn (r.text ++ rest) = false := by
  have hbody : Comment.opensIn (r.body ++ '}' :: rest) = false :=
    Comment.opensIn_append_cons r.isRuleSide_body.not_opensIn h (by decide) (by decide)
  have htext : r.text ++ rest = r.selectors ++ '{' :: (r.body ++ '}' :: rest) := by
    unfold text
    simp
  rw [htext]
  exact Comment.opensIn_append_cons r.isRuleSide_selectors.not_opensIn hbody (by decide)
    (by decide)

theorem opensIn_flatMap_text_append (rules : List RuleText) {rest : Text}
    (h : Comment.opensIn rest = false) :
    Comment.opensIn (rules.flatMap text ++ rest) = false := by
  induction rules with
  | nil => exact h
  | cons r rules ih =>
    rw [List.flatMap_cons, List.append_assoc]
    exact r.opensIn_text_append ih

/-- A rule is a block of its own and defines its selectors. -/
theorem definitions_listOfBare_append (r : RuleText) (rest : Text) :
    (Block.listOfBare (r.text ++ rest)).flatMap Block.definitions =
      r.definitions ++ (Block.listOfBare rest).flatMap Block.definitions := by
  obtain ⟨hopen, hclosed⟩ := r.isRuleSide_selectors.braces_not_mem
  obtain ⟨hopen', hclosed'⟩ := r.isRuleSide_body.braces_not_mem
  have hmem : '}' ∉ r.selectors ++ '{' :: r.body := by
    simp [hclosed, hclosed']
  rw [text_append, Block.definitions_listOfBare_closed hmem,
    Block.ofText_rule hopen hopen' r.isRuleSide_selectors.not_blank r.isRuleSide_body.not_blank]
  rfl

theorem definitions_listOfBare_flatMap_append (rules : List RuleText) (rest : Text) :
    (Block.listOfBare (rules.flatMap text ++ rest)).flatMap Block.definitions =
      rules.flatMap definitions ++ (Block.listOfBare rest).flatMap Block.definitions := by
  induction rules with
  | nil => rfl
  | cons r rules ih =>
    rw [List.flatMap_cons, List.flatMap_cons, List.append_assoc, List.append_assoc,
      definitions_listOfBare_append, ih]

end RuleText

/-! ## 2. Rules in a block -/

namespace Sheet

/-- An outer block with rules inside of it, blanks before its closing brace, and rules after it. -/
def nestedText (outer : Text) (inner : List RuleText) (gap : Text) (top : List RuleText) : Text :=
  outer ++ '{' :: (inner.flatMap RuleText.text ++ (gap ++ '}' :: top.flatMap RuleText.text))

section
variable {outer gap : Text}

/-- No comment comes about where the pieces meet. -/
theorem opensIn_nestedText (houter : Comment.opensIn outer = false)
    (hgap : isBlankText gap = true) (inner top : List RuleText) :
    Comment.opensIn (nestedText outer inner gap top) = false := by
  have htop : Comment.opensIn (top.flatMap RuleText.text) = false := by
    have hnil : Comment.opensIn [] = false := rfl
    have h := RuleText.opensIn_flatMap_text_append top hnil
    rw [List.append_nil] at h
    exact h
  have hend : Comment.opensIn (gap ++ '}' :: top.flatMap RuleText.text) = false :=
    Comment.opensIn_append_cons (Comment.opensIn_of_isBlankText hgap) htop (by decide) (by decide)
  exact Comment.opensIn_append_cons houter (RuleText.opensIn_flatMap_text_append inner hend)
    (by decide) (by decide)

/-- All rules but the first inner one define their selectors. -/
theorem definitionsOfText_nestedText (hbraces : '{' ∉ outer ∧ '}' ∉ outer)
    (hopen : Comment.opensIn outer = false) (hgap : isBlankText gap = true) (first : RuleText)
    (inner top : List RuleText) :
    definitionsOfText (nestedText outer (first :: inner) gap top) =
      (inner ++ top).flatMap RuleText.definitions := by
  obtain ⟨hselectors, hselectors'⟩ := first.isRuleSide_selectors.braces_not_mem
  obtain ⟨hbody, hbody'⟩ := first.isRuleSide_body.braces_not_mem
  -- The header and the first rule are one block, with an opening brace of each.
  have hhead : '}' ∉ outer ++ '{' :: (first.selectors ++ '{' :: first.body) := by
    simp [hbraces.2, hselectors', hbody']
  have hcount : (outer ++ '{' :: (first.selectors ++ '{' :: first.body)).count '{' ≠ 1 := by
    rw [List.count_append, List.count_cons_self, List.count_append, List.count_cons_self]
    omega
  have hmalformed := Block.definitions_ofText_of_count_ne_one hcount
  -- The outer closing brace ends a block of blanks.
  have hclosing : '}' ∉ gap := not_mem_of_isBlankText (by decide) hgap
  have hblank : (Block.ofText gap).definitions = [] := by
    rw [Block.ofText_of_isBlankText hgap]
    rfl
  have hend : (Block.listOfBare []).flatMap Block.definitions = [] := rfl
  have htext : nestedText outer (first :: inner) gap top =
      outer ++ '{' :: (first.selectors ++ '{' :: first.body) ++ ['}'] ++
        (inner.flatMap RuleText.text ++ (gap ++ ['}'] ++ (top.flatMap RuleText.text ++ []))) := by
    simp [nestedText, RuleText.text]
  unfold definitionsOfText
  rw [← Block.listOfBare_strip, Comment.strip_of_not_opensIn (opensIn_nestedText hopen hgap _ _),
    htext, Block.definitions_listOfBare_closed hhead, hmalformed, List.nil_append,
    RuleText.definitions_listOfBare_flatMap_append, Block.definitions_listOfBare_closed hclosing,
    hblank, List.nil_append, RuleText.definitions_listOfBare_flatMap_append, hend, List.append_nil,
    List.flatMap_append]

/-- **Of the rules in a block only the first is passed over.**  A stylesheet with rules inside of
an outer block is read as if the rules but the first stood outside of it, before the ones that do:
its classes are those that their selectors name. -/
theorem ofText_nestedText (hbraces : '{' ∉ outer ∧ '}' ∉ outer)
    (hopen : Comment.opensIn outer = false) (hgap : isBlankText gap = true) (first : RuleText)
    (inner top : List RuleText) :
    ofText (nestedText outer (first :: inner) gap top) =
        empty.defineAll ((inner ++ top).flatMap RuleText.definitions) ∧
      ∀ name, name ∈ (ofText (nestedText outer (first :: inner) gap top)).names ↔
        ∃ r ∈ inner ++ top, ∃ selector ∈ Block.selectorsOf r.selectors,
          name = className selector := by
  have hsheet : ofText (nestedText outer (first :: inner) gap top) =
      empty.defineAll ((inner ++ top).flatMap RuleText.definitions) := by
    unfold ofText parse
    rw [definitionsOfText_nestedText hbraces hopen hgap]
  refine ⟨hsheet, ?_⟩
  intro name
  rw [hsheet, mem_names_defineAll_iff]
  constructor
  · rintro ⟨d, hd, hname⟩
    obtain ⟨r, hr, hmem⟩ := List.mem_flatMap.1 hd
    obtain ⟨selector, hselector, rfl⟩ := List.mem_map.1 hmem
    exact ⟨r, hr, selector, hselector, hname⟩
  · rintro ⟨r, hr, selector, hselector, hname⟩
    exact ⟨(selector, trim r.body),
      List.mem_flatMap.2 ⟨r, hr, List.mem_map.2 ⟨selector, hselector, rfl⟩⟩, hname⟩

end

/-- A rule with a list of selectors after the first one, and a rule outside with no selector in its
list. -/
theorem names_nestedText_selectors :
    let outer := "@media ".toList
    let gap := " \n".toList
    let first : RuleText := ⟨" .a ".toList, "x".toList, by decide, by decide⟩
    let second : RuleText := ⟨"\n.b, ,.c".toList, " y ".toList, by decide, by decide⟩
    let third : RuleText := ⟨" , ".toList, "z".toList, by decide, by decide⟩
    let last : RuleText := ⟨".d".toList, "w".toList, by decide, by decide⟩
    ('{' ∉ outer ∧ '}' ∉ outer) ∧ Comment.opensIn outer = false ∧ isBlankText gap = true ∧
      (ofText (nestedText outer [first, second] gap [third, last])).classes =
        [("b".toList, "y".toList), ("c".toList, "y".toList), ("d".toList, "w".toList)] := by
  intro outer gap first second third last
  have hbraces : '{' ∉ outer ∧ '}' ∉ outer := by decide
  have hopen : Comment.opensIn outer = false := by decide
  have hgap : isBlankText gap = true := by decide
  refine ⟨hbraces, hopen, hgap, ?_⟩
  rw [(ofText_nestedText hbraces hopen hgap first [second] [third, last]).1]
  decide +kernel

/-- The classes need not be those of the rules outside: the second rule of the outer block is read
as if it stood there. -/
theorem not_names_nestedText_iff_top :
    ¬ ∀ (outer : Text) (inner top : List RuleText), '{' ∉ outer ∧ '}' ∉ outer →
      Comment.opensIn outer = false → inner ≠ [] →
      ∀ name, name ∈ (ofText (nestedText outer inner [] top)).names ↔
        ∃ r ∈ top, ∃ selector ∈ Block.selectorsOf r.selectors, name = className selector := by
  let first : RuleText := ⟨".a".toList, "x".toList, by decide, by decide⟩
  let second : RuleText := ⟨".b".toList, "y".toList, by decide, by decide⟩
  let last : RuleText := ⟨".ok".toList, "z".toList, by decide, by decide⟩
  have hbraces : '{' ∉ ".outer".toList ∧ '}' ∉ ".outer".toList := by decide
  have hopen : Comment.opensIn ".outer".toList = false := by decide
  -- The second inner rule is in a block of its own, so it defines its class.
  have hleaks : "b".toList ∈
      (ofText (nestedText ".outer".toList [first, second] [] [last])).names := by
    unfold ofText parse
    rw [definitionsOfText_nestedText hbraces hopen rfl]
    decide +kernel
  intro hclaim
  obtain ⟨r, hr, selector, hselector, hname⟩ :=
    (hclaim ".outer".toList [first, second] [last] hbraces hopen (by simp) "b".toList).1 hleaks
  rw [List.mem_singleton.1 hr, show Block.selectorsOf last.selectors = [".ok".toList] from rfl,
    List.mem_singleton] at hselector
  rw [hselector] at hname
  exact absurd hname (by decide)

end Sheet
end Cascade
