import Cascade.Font.Size
import Cascade.Proofs.Length.Units

/-!
# The rules for font sizes

No name is a length and no keyword is the name of a step, so at most one rule applies to a text.
-/

namespace Cascade

/-! ## 1. Names -/

theorem lookup_eq_none_of_not_mem {α : Type} {t : Text} {entries : List (Text × α)}
    (h : t ∉ entries.map Prod.fst) : entries.lookup t = none := by
  rw [List.lookup_eq_none_iff]
  intro entry hentry
  rw [bne_iff_ne]
  rintro rfl
  exact h (List.mem_map_of_mem hentry)

namespace TextStyle

def names : List Text := all.map name ++ aliases.map Prod.fst

theorem ofText?_eq_none_of_not_mem {t : Text} (h : t ∉ names) : ofText? t = none := by
  rw [names, List.mem_append, not_or] at h
  unfold ofText?
  rw [lookup_eq_none_of_not_mem h.2, Option.or_none, List.find?_eq_none]
  intro s hs hname
  exact h.1 (List.mem_map.2 ⟨s, hs, of_decide_eq_true hname⟩)

end TextStyle

def Points.names : List Text := keywords.map Prod.fst

namespace FontSize

/-- A name is no length.  There are few names, so each of them is tried. -/
theorem ofText?_length_eq_none_of_mem_names {t : Text}
    (h : t ∈ TextStyle.names ∨ t ∈ Points.names) : Length.ofText? t = none := by
  have hnames : ∀ name ∈ TextStyle.names ++ Points.names, Length.ofText? name = none := by
    decide +kernel
  exact hnames t (List.mem_append.2 h)

theorem not_mem_names_of_mem_names {t : Text} (h : t ∈ TextStyle.names) : t ∉ Points.names := by
  have hnames : ∀ name ∈ TextStyle.names, name ∉ Points.names := by decide
  exact hnames t h

/-! ## 2. Rules -/

inductive Rule where
  | style
  | withUnit
  | keyword
  | number
deriving DecidableEq

namespace Rule

def all : List Rule := [.style, .withUnit, .keyword, .number]

def read? (t : Text) : Rule → Option FontSize
  | .style => (TextStyle.ofText? t).map .scaled
  | .withUnit => (Length.withUnit? t).map fun x => .fixed (.measured x)
  | .keyword => (Points.keywords.lookup t).map .fixed
  | .number => (Binary64.ofText? t).map fun x => .fixed (.measured x)

theorem mem_all (r : Rule) : r ∈ all := by
  cases r <;> decide

/-- A font size is read by the first rule that applies. -/
theorem findSome?_all (t : Text) : all.findSome? (read? t) = ofText? t := by
  unfold ofText? all
  simp only [List.findSome?_cons, List.findSome?_nil, read?]
  grind

/-- At most one rule applies: a text with a name is no length, and a number has no unit. -/
theorem exclusive_all (t : Text) : Exclusive (read? t) all := by
  -- One of any two rules fails: a name rules out both kinds of length, a unit rules out a number.
  have hstyle : TextStyle.ofText? t = none ∨ Length.ofText? t = none ∧
      Points.keywords.lookup t = none := by
    by_cases h : t ∈ TextStyle.names
    · exact Or.inr ⟨ofText?_length_eq_none_of_mem_names (Or.inl h),
        lookup_eq_none_of_not_mem (not_mem_names_of_mem_names h)⟩
    · exact Or.inl (TextStyle.ofText?_eq_none_of_not_mem h)
  have hkeyword : Points.keywords.lookup t = none ∨ Length.ofText? t = none := by
    by_cases h : t ∈ Points.names
    · exact Or.inr (ofText?_length_eq_none_of_mem_names (Or.inr h))
    · exact Or.inl (lookup_eq_none_of_not_mem h)
  have hlength : Length.withUnit? t = none ∨ Binary64.ofText? t = none := by
    cases h : Length.withUnit? t with
    | none => exact Or.inl rfl
    | some x => exact Or.inr (Length.ofText?_eq_none_of_withUnit? h)
  have heither : Length.ofText? t = none ↔ Length.withUnit? t = none ∧ Binary64.ofText? t = none :=
    Option.or_eq_none_iff
  simp only [Exclusive, all, List.pairwise_cons, List.mem_cons, forall_eq_or_imp, read?,
    Option.map_eq_none_iff]
  grind

end Rule

/-- **The rules exclude each other.**  At most one of them applies to a text, so they may be tried
in any order.  Apart from the names, a font size is read as a length is. -/
theorem ofText?_order_irrelevant :
    (∀ (t : Text) (r r' : Rule), (r.read? t).isSome = true → (r'.read? t).isSome = true →
      r = r') ∧
    (∀ order : List Rule, Rule.all.Perm order → ∀ t : Text,
      order.findSome? (Rule.read? t) = ofText? t) ∧
    ∀ t : Text, t ∉ TextStyle.names → t ∉ Points.names →
      ofText? t = (Length.ofText? t).map (fun x => .fixed (.measured x)) ∧
        (ofText? t = none ↔ Length.ofText? t = none) := by
  refine ⟨?_, ?_, ?_⟩
  · intro t r r'
    exact (Rule.exclusive_all t).eq_of_isSome r.mem_all r'.mem_all
  · intro order horder t
    rw [← (Rule.exclusive_all t).findSome?_eq_of_perm horder, Rule.findSome?_all]
  · intro t hstyle hkeyword
    have hread : ofText? t = (Length.ofText? t).map (fun x => .fixed (.measured x)) := by
      unfold ofText?
      rw [TextStyle.ofText?_eq_none_of_not_mem hstyle, lookup_eq_none_of_not_mem hkeyword]
      simp only [Option.map_none, Option.none_or, Length.ofText?, Option.map_or]
    exact ⟨hread, by rw [hread, Option.map_eq_none_iff]⟩

theorem ofText?_rules_reversed :
    (∀ r : Rule, (r.read? "12 pt".toList).isSome = true → r = .withUnit) ∧
      Rule.all.reverse.findSome? (Rule.read? "small".toList) = ofText? "small".toList ∧
      ofText? "12 pt".toList =
        (Length.ofText? "12 pt".toList).map (fun x => .fixed (.measured x)) := by
  have hunit : (Rule.withUnit.read? "12 pt".toList).isSome = true := by decide +kernel
  obtain ⟨hone, horder, hread⟩ := ofText?_order_irrelevant
  exact ⟨fun r hr => hone "12 pt".toList r .withUnit hr hunit, horder _ (by decide) _,
    (hread _ (by decide) (by decide)).1⟩

end FontSize
end Cascade
