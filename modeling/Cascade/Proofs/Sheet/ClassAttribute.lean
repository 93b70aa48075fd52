import Cascade.Sheet.Reading

/-!
# Class attributes

A class attribute is cut at spaces alone.  Other blanks separate nothing, but make no name either.
-/

namespace Cascade.Sheet
open Text

/-! ## 1. Writing names -/

structure IsAttributeName (name : Text) : Prop where
  no_space : ' ' ∉ name
  not_blank : isBlankText name = false

instance (name : Text) : Decidable (IsAttributeName name) :=
  decidable_of_iff (' ' ∉ name ∧ isBlankText name = false)
    ⟨fun h => ⟨h.1, h.2⟩, fun h => ⟨h.no_space, h.not_blank⟩⟩

/-- The ways of writing names one after the other, with one or more spaces between them and any
number of spaces before the first and after the last. -/
inductive Written : List Text → Text → Prop
  | spaces (n : Nat) : Written [] (List.replicate n ' ')
  | last (n : Nat) (name : Text) : Written [name] (List.replicate n ' ' ++ name)
  | cons (n : Nat) (name : Text) {names : List Text} {t : Text} (h : Written names t) :
      Written (name :: names) (List.replicate n ' ' ++ (name ++ ' ' :: t))

/-- Names joined by single spaces are written. -/
theorem written_intercalate (names : List Text) : Written names (List.intercalate [' '] names) := by
  induction names with
  | nil => exact .spaces 0
  | cons name rest ih =>
    cases rest with
    | nil =>
      rw [List.intercalate_singleton]
      exact .last 0 name
    | cons next others =>
      rw [List.intercalate_cons_cons, List.append_assoc, List.singleton_append]
      exact .cons 0 name ih

/-! ## 2. Cutting at spaces -/

/-- A space separates what stands on its two sides. -/
theorem splitClassNames_append_cons (a b : Text) :
    splitClassNames (a ++ ' ' :: b) = splitClassNames a ++ splitClassNames b := by
  unfold splitClassNames
  rw [List.splitOn_append_cons_self, List.filter_append]

theorem splitClassNames_of_not_mem {t : Text} (h : ' ' ∉ t) :
    splitClassNames t = [t].filter fun piece => !isBlankText piece := by
  unfold splitClassNames
  rw [List.splitOn_eq_singleton h]
  refine List.filter_congr ?_
  intro piece _
  cases hblank : isBlankText piece with
  | true => simp [trim_eq_nil_iff.2 hblank]
  | false => simp [trim_ne_nil_iff.2 hblank]

theorem splitClassNames_name {name : Text} (h : IsAttributeName name) :
    splitClassNames name = [name] := by
  rw [splitClassNames_of_not_mem h.no_space, List.filter_cons_of_pos (by simp [h.not_blank]),
    List.filter_nil]

/-- Further spaces make no names. -/
theorem splitClassNames_spaces_append (n : Nat) (t : Text) :
    splitClassNames (List.replicate n ' ' ++ t) = splitClassNames t := by
  induction n with
  | zero => rfl
  | succ n ih =>
    rw [List.replicate_succ, List.cons_append, ← ih]
    exact splitClassNames_append_cons [] _

/-- What stands between the spaces stays as it is, and the blank pieces are passed over. -/
theorem splitClassNames_intercalate {pieces : List Text} (h : ∀ piece ∈ pieces, ' ' ∉ piece) :
    splitClassNames (List.intercalate [' '] pieces) =
      pieces.filter fun piece => !isBlankText piece := by
  rw [read_intercalate (rfl : splitClassNames [] = []) splitClassNames_append_cons]
  induction pieces with
  | nil => rfl
  | cons piece rest ih =>
    rw [List.flatMap_cons, ih fun other hother => h other (List.mem_cons_of_mem piece hother),
      splitClassNames_of_not_mem (h piece List.mem_cons_self), ← List.filter_append,
      List.singleton_append]

/-- What an attribute is cut into are names that it can have. -/
theorem isAttributeName_of_mem_splitClassNames {t name : Text} (h : name ∈ splitClassNames t) :
    IsAttributeName name := by
  obtain ⟨hpiece, hname⟩ := List.mem_filter.1 h
  exact ⟨not_mem_of_mem_splitOn hpiece, trim_ne_nil_iff.1 (of_decide_eq_true hname)⟩

namespace Written
variable {names : List Text} {t : Text}

/-- However names are written, they are read back. -/
theorem splitClassNames_eq (h : Written names t) (hnames : ∀ name ∈ names, IsAttributeName name) :
    splitClassNames t = names := by
  induction h with
  | spaces n =>
    -- Spaces alone give nothing, as no text at all does.
    have hspaces := splitClassNames_spaces_append n []
    rw [List.append_nil] at hspaces
    exact hspaces
  | last n name =>
    rw [splitClassNames_spaces_append, splitClassNames_name (hnames name List.mem_cons_self)]
  | cons n name h ih =>
    rw [splitClassNames_spaces_append, splitClassNames_append_cons,
      splitClassNames_name (hnames name List.mem_cons_self),
      ih fun other hother => hnames other (List.mem_cons_of_mem name hother),
      List.singleton_append]

end Written

/-! ## 3. The two ways of asking -/

/-- **A class attribute is a way to write a list of names.**  However names are written with spaces
between and around them, cutting the attribute gives just these names, and asking for its style is
asking for theirs.  Every attribute gives names that can be written so, it gives them again when
they are written with single spaces, and it asks for their style.  Of the pieces between the spaces
those of other blanks alone are passed over, and every other one is a name as it stands. -/
theorem splitClassNames_written (s : Sheet) (provider : Provider) :
    (∀ names t, Written names t → (∀ name ∈ names, IsAttributeName name) →
        splitClassNames t = names ∧
          s.styleOf provider (.spaced t) = s.styleOf provider (.list names)) ∧
      (∀ t, (∀ name ∈ splitClassNames t, IsAttributeName name) ∧
        splitClassNames (List.intercalate [' '] (splitClassNames t)) = splitClassNames t ∧
        s.styleOf provider (.spaced t) = s.styleOf provider (.list (splitClassNames t))) ∧
      ∀ pieces : List Text, (∀ piece ∈ pieces, ' ' ∉ piece) →
        splitClassNames (List.intercalate [' '] pieces) =
          pieces.filter fun piece => !isBlankText piece := by
  refine ⟨?_, ?_, fun pieces h => splitClassNames_intercalate h⟩
  · intro names t hwritten hnames
    have hsplit : splitClassNames t = names := hwritten.splitClassNames_eq hnames
    refine ⟨hsplit, ?_⟩
    show s.style provider (splitClassNames t) = s.style provider names
    rw [hsplit]
  · intro t
    have hnames : ∀ name ∈ splitClassNames t, IsAttributeName name :=
      fun name hname => isAttributeName_of_mem_splitClassNames hname
    exact ⟨hnames, (written_intercalate _).splitClassNames_eq hnames, rfl⟩

/-- The second name has a tab before it and a line feed inside, and the piece before the last two
spaces is a tab alone. -/
theorem splitClassNames_written_tabs :
    let names := ["card".toList, "\ta\nb".toList]
    let t := "  card   \ta\nb ".toList
    let pieces := [[], "card".toList, "\t".toList, "\ta\nb".toList, []]
    let s := ofText ".card\x7bcolor: red\x7d".toList
    Written names t ∧ (∀ name ∈ names, IsAttributeName name) ∧ splitClassNames t = names ∧
      s.styleOf .deferred (.spaced t) = s.styleOf .deferred (.list names) ∧
      (s.styleOf .deferred (.list names)).foregroundColor = Color.ofText? .deferred "red".toList ∧
      (∀ piece ∈ pieces, ' ' ∉ piece) ∧ splitClassNames " card \t \ta\nb ".toList = names := by
  intro names t pieces s
  obtain ⟨hwritten, -, hpieces⟩ := splitClassNames_written s .deferred
  have ht : Written names t := .cons 2 _ (.cons 2 _ (.spaces 0))
  have hnames : ∀ name ∈ names, IsAttributeName name := by decide
  have hplain : ∀ piece ∈ pieces, ' ' ∉ piece := by decide
  obtain ⟨hsplit, hstyle⟩ := hwritten names t ht hnames
  exact ⟨ht, hnames, hsplit, hstyle, by decide +kernel, hplain, hpieces pieces hplain⟩

end Cascade.Sheet
