import Cascade.Proofs.Sheet.History

/-!
# Reading a stylesheet again

Reading a text again brings earlier texts back for a while, but in the end nothing has changed.
-/

namespace Cascade.Sheet

/-! ## 1. Histories whose end is repeated -/

/-- In the repeated end no name is new. -/
theorem eraseDups_append_append_self (names again : List Text) :
    (names ++ again ++ again).eraseDups = (names ++ again).eraseDups := by
  have hold : again.removeAll (names ++ again) = [] := by
    unfold List.removeAll
    rw [List.filter_eq_nil_iff]
    intro name hname
    simp [hname]
  rw [List.eraseDups_append, hold, List.eraseDups_nil, List.append_nil]

/-- The last definition of a name in the repeated end is the one it had. -/
theorem lookup_reverse_append_append_self (history again : List (Text × Text)) (name : Text) :
    (history ++ again ++ again).reverse.lookup name =
      (history ++ again).reverse.lookup name := by
  rw [List.reverse_append, List.reverse_append, List.lookup_append, List.lookup_append]
  -- Either the stretch defines the name, and the repeated one does so first, or neither does.
  cases again.reverse.lookup name with
  | none => rw [Option.none_or]
  | some text => rw [Option.some_or, Option.some_or]

namespace Holds

variable {s s' : Sheet} {history again : List (Text × Text)}

protected theorem eq (h : s.Holds history) (h' : s'.Holds history) : s = s' := by
  apply eq_of_names_eq_of_css?_eq
  · rw [h.names, h'.names]
  · intro name
    rw [h.css?, h'.css?]

theorem of_append_self (h : s.Holds (history ++ again ++ again)) :
    s.Holds (history ++ again) := by
  constructor
  · rw [h.names, List.map_append, List.map_append, eraseDups_append_append_self]
  · intro name
    rw [h.css?, lookup_reverse_append_append_self]

end Holds

/-! ## 2. Runs -/

variable {α : Type}

/-- A run that is repeated leaves what it left before. -/
theorem run_run (s : Sheet) (operations : List (Operation α)) :
    (s.run operations).run operations = s.run operations := by
  -- Both hold one history from the classes of the stylesheet on, the left one with its end twice.
  have honce := s.holds_classes.run operations
  exact (honce.run operations).of_append_self.eq honce

/-- **Reading a text again changes nothing.**  Whatever the stylesheet was before, and however
often the text defines a class, a text that is read twice leaves the stylesheet that it leaves when
it is read once: the same names in the same order, each with the same text.  It is so with every
run of operations, the loading of resources among them. -/
theorem parse_parse (s : Sheet) (t : Text) :
    (s.parse t).parse t = s.parse t ∧
      ∀ operations : List (Operation α), (s.run operations).run operations = s.run operations := by
  have hparse : (s.parse t).parse t = s.parse t := s.run_run [(.parse t : Operation α)]
  exact ⟨hparse, s.run_run⟩

/-- The second reading gives both classes an earlier text on its way, and in another order. -/
example :
    let t := ".a, .b \x7bx\x7d .b, .a \x7by\x7d .a \x7bz\x7d".toList
    (((empty.define "b".toList "w".toList).parse t).parse t).classes =
      [("b".toList, "y".toList), ("a".toList, "z".toList)] := by
  decide +kernel

end Cascade.Sheet
