import Cascade.Sheet.Reading

/-!
# The history of a stylesheet

Each operation adds to a history that does not depend on the stylesheet, and the stylesheet holds
it: one definition keeps this, therefore every operation and every run does.
-/

namespace Cascade

/-! ## 1. Operations -/

/-- A question to a stylesheet.  Of a value of any kind it may be asked whether that is a class. -/
inductive Query (α : Type) where
  | css (name : Text)
  | contains (value : Text ⊕ α)
  | resolve (classes : List Text)
  | style (provider : Provider) (classes : List Text)
  | names

inductive Operation (α : Type) where
  | define (name text : Text)
  | parse (t : Text)
  | load (name : Text) (source : TextSource)
  | ask (query : Query α)

inductive Answer where
  | done
  | loaded (success : Bool)
  | refused (e : EmbeddedNul)
  | css (text : Option Text)
  | contained (holds : Bool)
  | resolved (t : Text)
  | styled (s : Style)
  | named (names : List Text)

namespace Sheet

variable {α : Type}

def containsValue (s : Sheet) : Text ⊕ α → Bool
  | .inl name => s.contains name
  | .inr _ => false

def answer (s : Sheet) : Query α → Answer
  | .css name => .css (s.css? name)
  | .contains value => .contained (s.containsValue value)
  | .resolve classes => .resolved (s.resolve classes)
  | .style provider classes => .styled (s.style provider classes)
  | .names => .named s.names

def perform (s : Sheet) : Operation α → Sheet × Answer
  | .define name text => (s.define name text, .done)
  | .parse t => (s.parse t, .done)
  | .load name source =>
    match s.load name source with
    | .ok (some loaded, _) => (loaded, .loaded true)
    | .ok (none, _) => (s, .loaded false)
    | .error e => (s, .refused e)
  | .ask query => (s, s.answer query)

def run (s : Sheet) (operations : List (Operation α)) : Sheet :=
  operations.foldl (fun s operation => (s.perform operation).1) s

/-- Loading is parsing the text that is found, if there is one. -/
theorem perform_load (s : Sheet) (name : Text) (source : TextSource) :
    s.perform (.load name source : Operation α) =
      match source.read name with
      | .ok (some t, _) => (s.parse t, .loaded true)
      | .ok (none, _) => (s, .loaded false)
      | .error e => (s, .refused e) := by
  simp only [perform, load]
  cases source.read name with
  | error e => rfl
  | ok found =>
    obtain ⟨t?, records⟩ := found
    cases t? with
    | none => rfl
    | some t => rfl

/-- What is not found leaves the stylesheet alone. -/
theorem perform_fst_of_loaded_false {s : Sheet} {operation : Operation α}
    (h : (s.perform operation).2 = .loaded false) : (s.perform operation).1 = s := by
  cases operation with
  | define name text => exact absurd h (by simp [perform])
  | parse t => exact absurd h (by simp [perform])
  | load name source =>
    rw [perform_load] at h ⊢
    cases hread : source.read name with
    | error e => rfl
    | ok found =>
      obtain ⟨t?, records⟩ := found
      cases t? with
      | none => rfl
      | some t =>
        rw [hread] at h
        exact absurd h (by simp)
  | ask query => rfl

/-! ## 2. Histories -/

def entriesOfText (t : Text) : List (Text × Text) :=
  (definitionsOfText t).map fun (name, text) => (className name, text)

end Sheet

namespace Operation

variable {α : Type}

def definitions : Operation α → List (Text × Text)
  | .define name text => [(className name, text)]
  | .parse t => Sheet.entriesOfText t
  | .load name source =>
    match source.read name with
    | .ok (some t, _) => Sheet.entriesOfText t
    | _ => []
  | .ask _ => []

theorem definitions_load (name : Text) (source : TextSource) :
    (load name source : Operation α).definitions =
      match source.read name with
      | .ok (some t, _) => Sheet.entriesOfText t
      | _ => [] := rfl

def history (operations : List (Operation α)) : List (Text × Text) :=
  operations.flatMap definitions

end Operation

namespace Sheet

variable {α : Type}

/-- The names are those of the history in the order of their first definition, each with the text of
its last one. -/
structure Holds (s : Sheet) (history : List (Text × Text)) : Prop where
  names : s.names = (history.map Prod.fst).eraseDups
  css? : ∀ name, s.css? name = history.reverse.lookup (className name)

/-- A name at the end is new, or it has its place already. -/
theorem eraseDups_append_singleton (names : List Text) (name : Text) :
    (names ++ [name]).eraseDups =
      if name ∈ names.eraseDups then names.eraseDups else names.eraseDups ++ [name] := by
  rw [List.eraseDups_append]
  by_cases h : name ∈ names
  · rw [if_pos (List.mem_eraseDups.2 h)]
    simp [List.removeAll, h]
  · rw [if_neg (mt List.mem_eraseDups.1 h)]
    simp [List.removeAll, h, List.eraseDups_cons]

/-- The last definition of a name is found first. -/
theorem lookup_reverse_append_singleton (history : List (Text × Text)) (name text n : Text) :
    (history ++ [(name, text)]).reverse.lookup n =
      if n = name then some text else history.reverse.lookup n := by
  rw [List.reverse_append, List.reverse_singleton, List.singleton_append, List.lookup_cons]
  by_cases h : n = name
  · rw [if_pos h, beq_iff_eq.2 h]
  · rw [if_neg h, beq_false_of_ne h]

theorem holds_empty : empty.Holds [] := by
  constructor
  · rfl
  · intro name
    rfl

namespace Holds

variable {s : Sheet} {history : List (Text × Text)}

theorem define (h : s.Holds history) (name text : Text) :
    (s.define name text).Holds (history ++ [(className name, text)]) := by
  constructor
  · rw [names_define, h.names, List.map_append, List.map_singleton, eraseDups_append_singleton]
  · intro n
    rw [css?_define, h.css?, lookup_reverse_append_singleton]

theorem defineAll (h : s.Holds history) (ds : List (Text × Text)) :
    (s.defineAll ds).Holds (history ++ ds.map fun (name, text) => (className name, text)) := by
  induction ds generalizing s history with
  | nil => simpa [Sheet.defineAll] using h
  | cons d ds ih =>
    obtain ⟨name, text⟩ := d
    have hrest := ih (h.define name text)
    rw [List.append_assoc, List.singleton_append] at hrest
    exact hrest

theorem parse (h : s.Holds history) (t : Text) :
    (s.parse t).Holds (history ++ entriesOfText t) :=
  h.defineAll (definitionsOfText t)

theorem perform (h : s.Holds history) (operation : Operation α) :
    (s.perform operation).1.Holds (history ++ operation.definitions) := by
  have hsame : s.Holds (history ++ []) := by
    rw [List.append_nil]
    exact h
  cases operation with
  | define name text => exact h.define name text
  | parse t => exact h.parse t
  | load name source =>
    rw [perform_load, Operation.definitions_load]
    -- Reading the resource decides: only a text that is found defines anything.
    cases source.read name with
    | error e => exact hsame
    | ok found =>
      obtain ⟨t?, records⟩ := found
      cases t? with
      | none => exact hsame
      | some t => exact h.parse t
  | ask query => exact hsame

theorem run (h : s.Holds history) (operations : List (Operation α)) :
    (s.run operations).Holds (history ++ Operation.history operations) := by
  -- On the operations, for every stylesheet and history that they start from.
  induction operations generalizing s history with
  | nil =>
    unfold Operation.history
    rw [List.flatMap_nil, List.append_nil]
    exact h
  | cons operation rest ih =>
    have hrest := ih (h.perform operation)
    rw [List.append_assoc] at hrest
    unfold Operation.history at hrest ⊢
    rw [List.flatMap_cons]
    exact hrest

end Holds

/-- New names are added at the end. -/
theorem classes_defineAll_of_nodup (s : Sheet) (entries : List (Text × Text))
    (h : ((s.classes ++ entries).map Prod.fst).Nodup) :
    (s.defineAll (entries.map fun (name, body) => ('.' :: name, body))).classes =
      s.classes ++ entries := by
  induction entries generalizing s with
  | nil => exact (List.append_nil s.classes).symm
  | cons e rest ih =>
    obtain ⟨name, body⟩ := e
    have hnew : name ∉ s.classes.map Prod.fst := by
      rw [List.map_append, List.map_cons] at h
      intro hmem
      exact (List.nodup_append.1 h).2.2 name hmem name List.mem_cons_self rfl
    have hdefine : (s.define ('.' :: name) body).classes = s.classes ++ [(name, body)] :=
      assignEntry_of_not_mem body hnew
    have hrest := ih (s.define ('.' :: name) body)
    rw [hdefine, List.append_assoc, List.singleton_append] at hrest
    exact hrest h

/-- Every stylesheet is made by defining its classes one by one. -/
theorem empty_defineAll_classes (s : Sheet) :
    empty.defineAll (s.classes.map fun (name, body) => ('.' :: name, body)) = s :=
  eq_of_classes_eq (classes_defineAll_of_nodup empty s.classes s.distinct)

/-- So a run may start anywhere: a stylesheet holds its own classes. -/
theorem holds_classes (s : Sheet) : s.Holds s.classes := by
  have h := holds_empty.defineAll (s.classes.map fun (name, body) => ('.' :: name, body))
  rw [empty_defineAll_classes, List.nil_append, List.map_map] at h
  -- The point put before a name is the one that is dropped again.
  have hsame : (fun (name, body) => (className name, body)) ∘
      (fun (name, body) => ('.' :: name, body)) = (id : Text × Text → Text × Text) := rfl
  rw [hsame, List.map_id] at h
  exact h

/-- The names are those that were defined, each without its point. -/
theorem mem_names_defineAll_iff (definitions : List (Text × Text)) (name : Text) :
    name ∈ (empty.defineAll definitions).names ↔ ∃ d ∈ definitions, name = className d.1 := by
  have hnames := (holds_empty.defineAll definitions).names
  rw [hnames, List.mem_eraseDups, List.nil_append, List.map_map, List.mem_map]
  simp only [Function.comp_apply, eq_comm]

/-! ## 3. Runs from the empty stylesheet -/

theorem size_eq_length_names (s : Sheet) : s.size = s.names.length := by
  unfold size names
  rw [List.length_map]

theorem containsValue_eq_true_iff (s : Sheet) (value : Text ⊕ α) :
    s.containsValue value = true ↔ ∃ name, value = .inl name ∧ s.css? name ≠ none := by
  cases value with
  | inl name =>
    show s.contains name = true ↔ _
    rw [contains_iff]
    simp
  | inr other => simp [containsValue]

/-- **A stylesheet holds its history.**  After any run from the empty stylesheet, the names are
those of the definitions made, each once and in the order of its first definition, and the text of
a name is that of its last definition.  A value is a class when it is a text that has such a text.
Neither a query nor a resource that is not found changes any of this. -/
theorem run_empty_eq_history (operations : List (Operation α)) :
    (empty.run operations).names = ((Operation.history operations).map Prod.fst).eraseDups ∧
      (empty.run operations).names.Nodup ∧
      (empty.run operations).size = (empty.run operations).names.length ∧
      (∀ name, (empty.run operations).css? name =
        (Operation.history operations).reverse.lookup (className name)) ∧
      (∀ value : Text ⊕ α, (empty.run operations).containsValue value = true ↔
        ∃ name, value = .inl name ∧ (empty.run operations).css? name ≠ none) ∧
      ∀ operation : Operation α,
        (∃ query, operation = .ask query) ∨
            ((empty.run operations).perform operation).2 = .loaded false →
          ((empty.run operations).perform operation).1.names = (empty.run operations).names ∧
            ∀ name, ((empty.run operations).perform operation).1.css? name =
              (empty.run operations).css? name := by
  have hrun : (empty.run operations).Holds (Operation.history operations) := by
    have h := holds_empty.run operations
    rw [List.nil_append] at h
    exact h
  refine ⟨hrun.names, (empty.run operations).distinct, size_eq_length_names _, hrun.css?,
    containsValue_eq_true_iff _, ?_⟩
  intro operation h
  -- The stylesheet itself stays, so everything that is asked of it does.
  have hsame : ((empty.run operations).perform operation).1 = empty.run operations := by
    rcases h with ⟨query, rfl⟩ | hmissing
    · rfl
    · exact perform_fst_of_loaded_false hmissing
  rw [hsame]
  exact ⟨rfl, fun name => rfl⟩

/-- A class that is defined again keeps its place, and a resource that is missing changes
nothing. -/
theorem names_perform_load_missing :
    let operations : List (Operation Unit) := [.define ".card".toList "a".toList,
      .define "..odd".toList "b".toList, .define "card".toList "c".toList]
    let load : Operation Unit := .load "theme".toList (.mapping [] "css".toList)
    ((empty.run operations).perform load).2 = .loaded false ∧
      ((empty.run operations).perform load).1.names = ["card".toList, ".odd".toList] ∧
      ((empty.run operations).perform load).1.css? ".card".toList = some "c".toList := by
  intro operations load
  have hload : ((empty.run operations).perform load).2 = .loaded false := rfl
  obtain ⟨hnames, -, -, hcss, -, hsame⟩ := run_empty_eq_history operations
  obtain ⟨hnames', hcss'⟩ := hsame load (Or.inr hload)
  refine ⟨hload, ?_, ?_⟩
  · rw [hnames', hnames]
    decide +kernel
  · rw [hcss', hcss]
    decide +kernel

end Sheet
end Cascade
