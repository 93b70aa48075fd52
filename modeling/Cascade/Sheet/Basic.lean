import Cascade.Text.Basic

/-!
# Stylesheets

A stylesheet gives each class name a declaration text.  The names keep the order of their first
definition, and a later definition replaces the text alone.
-/

namespace Cascade

/-- A class name without the point that may stand before it. -/
def className : Text → Text
  | '.' :: name => name
  | name => name

theorem className_of_head?_ne {name : Text} (h : name.head? ≠ some '.') :
    className name = name := by
  unfold className
  split
  · exact absurd rfl h
  · rfl

def assignEntry (name text : Text) : List (Text × Text) → List (Text × Text)
  | [] => [(name, text)]
  | (n, t) :: rest => if n = name then (n, text) :: rest else (n, t) :: assignEntry name text rest

/-- A name keeps its place, and a new one comes last. -/
theorem map_fst_assignEntry (name text : Text) (entries : List (Text × Text)) :
    (assignEntry name text entries).map Prod.fst =
      if name ∈ entries.map Prod.fst then entries.map Prod.fst
      else entries.map Prod.fst ++ [name] := by
  induction entries with
  | nil => simp [assignEntry]
  | cons e rest ih =>
    obtain ⟨n, t⟩ := e
    by_cases h : n = name
    · simp [assignEntry, h]
    · have h' : name ≠ n := Ne.symm h
      simp only [assignEntry, h, if_false, List.map_cons, ih, List.mem_cons, h', false_or]
      split <;> simp

theorem nodup_assignEntry {name text : Text} {entries : List (Text × Text)}
    (h : (entries.map Prod.fst).Nodup) : ((assignEntry name text entries).map Prod.fst).Nodup := by
  rw [map_fst_assignEntry]
  split
  · exact h
  · rename_i hn
    -- A new name goes to the end, where no earlier one is equal to it.
    rw [List.nodup_append]
    exact ⟨h, by simp, by rintro a ha b hb rfl; simp_all⟩

theorem lookup_assignEntry (name text n : Text) (entries : List (Text × Text)) :
    (assignEntry name text entries).lookup n =
      if n = name then some text else entries.lookup n := by
  induction entries with
  | nil =>
    by_cases h : n = name
    · simp [assignEntry, h]
    · simp [assignEntry, List.lookup_cons, beq_false_of_ne h, h]
  | cons e rest ih =>
    obtain ⟨m, t⟩ := e
    -- The name may stand at the head, be asked for at the head, both or neither.
    by_cases hm : m = name
    · subst hm
      by_cases hn : n = m
      · simp [assignEntry, hn]
      · simp [assignEntry, List.lookup_cons, beq_false_of_ne hn, hn]
    · by_cases hn : n = m
      · subst hn
        simp [assignEntry, hm]
      · simp [assignEntry, hm, List.lookup_cons, beq_false_of_ne hn, ih]

theorem mem_assignEntry {name text : Text} {entries : List (Text × Text)} {e : Text × Text}
    (h : e ∈ assignEntry name text entries) : e = (name, text) ∨ e ∈ entries := by
  induction entries with
  | nil => exact Or.inl (List.mem_singleton.1 h)
  | cons entry rest ih =>
    obtain ⟨n, t⟩ := entry
    unfold assignEntry at h
    split at h
    · rename_i hn
      rcases List.mem_cons.1 h with heq | hmem
      · exact Or.inl (hn ▸ heq)
      · exact Or.inr (List.mem_cons_of_mem _ hmem)
    · rcases List.mem_cons.1 h with heq | hmem
      · exact Or.inr (heq ▸ List.mem_cons_self)
      · exact (ih hmem).imp_right (List.mem_cons_of_mem _)

theorem assignEntry_of_not_mem {name : Text} (text : Text) {entries : List (Text × Text)}
    (h : name ∉ entries.map Prod.fst) :
    assignEntry name text entries = entries ++ [(name, text)] := by
  induction entries with
  | nil => rfl
  | cons e rest ih =>
    obtain ⟨n, t⟩ := e
    rw [List.map_cons, List.mem_cons, not_or] at h
    rw [assignEntry, if_neg (Ne.symm h.1), ih h.2, List.cons_append]

structure Sheet where
  classes : List (Text × Text)
  distinct : (classes.map Prod.fst).Nodup

namespace Sheet

theorem eq_of_classes_eq {s s' : Sheet} (h : s.classes = s'.classes) : s = s' := by
  cases s
  cases s'
  cases h
  rfl

def empty : Sheet := ⟨[], List.nodup_nil⟩

def names (s : Sheet) : List Text := s.classes.map Prod.fst

def size (s : Sheet) : Nat := s.classes.length

def css? (s : Sheet) (name : Text) : Option Text := s.classes.lookup (className name)

def contains (s : Sheet) (name : Text) : Bool := s.names.contains (className name)

def define (s : Sheet) (name text : Text) : Sheet :=
  ⟨assignEntry (className name) text s.classes, nodup_assignEntry s.distinct⟩

/-- A definition is seen under every spelling of its name, and under no other name. -/
theorem css?_define (s : Sheet) (name text n : Text) :
    (s.define name text).css? n =
      if className n = className name then some text else s.css? n :=
  lookup_assignEntry _ _ _ _

theorem lookup_of_mem {entries : List (Text × Text)} (h : (entries.map Prod.fst).Nodup)
    {name body : Text} (hmem : (name, body) ∈ entries) : entries.lookup name = some body := by
  induction entries with
  | nil => exact absurd hmem List.not_mem_nil
  | cons e rest ih =>
    obtain ⟨n, t⟩ := e
    rw [List.map_cons, List.nodup_cons] at h
    rw [List.lookup_cons]
    rcases List.mem_cons.1 hmem with heq | hrest
    · obtain ⟨rfl, rfl⟩ := Prod.mk.inj heq
      rw [beq_self_eq_true]
    · have hne : name ≠ n := by
        rintro rfl
        exact h.1 (List.mem_map.2 ⟨_, hrest, rfl⟩)
      rw [beq_false_of_ne hne]
      exact ih h.2 hrest

theorem css?_cons_of_mem_classes {s : Sheet} {name body : Text} (h : (name, body) ∈ s.classes) :
    s.css? ('.' :: name) = some body :=
  lookup_of_mem s.distinct h

/-- The names and what they are looked up as give back the whole list of classes. -/
theorem classes_eq_map (s : Sheet) :
    s.classes = s.names.map fun name => (name, (s.css? ('.' :: name)).getD []) := by
  unfold names
  rw [List.map_map]
  refine (List.map_id s.classes).symm.trans (List.map_congr_left ?_)
  rintro ⟨name, body⟩ hmem
  show (name, body) = (name, (s.css? ('.' :: name)).getD [])
  rw [css?_cons_of_mem_classes hmem, Option.getD_some]

/-- Names, their order and their texts are all that there is to a stylesheet. -/
theorem eq_of_names_eq_of_css?_eq {s s' : Sheet} (hnames : s.names = s'.names)
    (hcss : ∀ name, s.css? name = s'.css? name) : s = s' := by
  apply eq_of_classes_eq
  rw [classes_eq_map s, classes_eq_map s', hnames]
  simp only [hcss]

theorem names_define (s : Sheet) (name text : Text) :
    (s.define name text).names =
      if className name ∈ s.names then s.names else s.names ++ [className name] :=
  map_fst_assignEntry _ _ _

theorem contains_iff {s : Sheet} {name : Text} : s.contains name = true ↔ s.css? name ≠ none := by
  unfold contains css? names
  rw [← Option.isSome_iff_ne_none, List.lookup_isSome_iff, List.contains_iff_mem, List.mem_map]
  constructor
  · rintro ⟨e, he, hname⟩
    exact ⟨e, he, beq_iff_eq.2 hname.symm⟩
  · rintro ⟨e, he, hname⟩
    exact ⟨e, he, (beq_iff_eq.1 hname).symm⟩

end Sheet
end Cascade
