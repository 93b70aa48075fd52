import Cascade.Proofs.Style.CanonicalText
import Cascade.Proofs.Style.Serialization
import Mathlib.Data.List.Forall2

/-!
# What is reported of a declaration block

A segment that is not blank is reported as broken, or it is a declaration; and that is reported
unless all fields of its property are there once its value is read.
-/

namespace Cascade
open Text

/-! ## 1. Lines of the log -/

def parserLine (message : Text) : Text := "DEBUG cssdecl.parser: ".toList ++ message

theorem Record.line_eq_parserLine {r : Record} (hlevel : r.level = .debug)
    (hchannel : r.channel = "cssdecl.parser".toList) : r.line = parserLine r.message := by
  have hstart : Level.debug.name ++ ' ' :: "cssdecl.parser".toList ++ ": ".toList =
      "DEBUG cssdecl.parser: ".toList := by decide
  unfold line parserLine
  rw [hlevel, hchannel, hstart]

/-! ## 2. Segments -/

namespace Segment

/-- There is no colon, or nothing at all on one side of the first one. -/
def Broken (t : Text) : Prop :=
  ':' ∉ t ∨ ∃ before after, t = before ++ ':' :: after ∧ ':' ∉ before ∧ (before = [] ∨ after = [])

def Declares (t : Text) (d : Declaration) : Prop :=
  ∃ property value, t = property ++ ':' :: value ∧ ':' ∉ property ∧ property ≠ [] ∧ value ≠ [] ∧
    d = ⟨lower (trim property), lower (trim value)⟩

/-- What is broken does not fall into two sides with something on each. -/
theorem broken_iff (t : Text) :
    Broken t ↔ ∀ sides ∈ breakOn ':' t, sides.1 = [] ∨ sides.2 = [] := by
  unfold Broken
  constructor
  · rintro (hcolon | ⟨before, after, ht, hbefore, hside⟩) sides hsides
    · rw [breakOn_eq_none_iff.2 hcolon] at hsides
      exact absurd hsides (by simp)
    · rw [breakOn_eq_some_iff.2 ⟨ht, hbefore⟩] at hsides
      rw [← Option.some.inj hsides]
      exact hside
  · intro h
    cases hbreak : breakOn ':' t with
    | none => exact Or.inl (breakOn_eq_none_iff.1 hbreak)
    | some sides =>
      obtain ⟨before, after⟩ := sides
      obtain ⟨ht, hbefore⟩ := breakOn_eq_some_iff.1 hbreak
      exact Or.inr ⟨before, after, ht, hbefore, h (before, after) hbreak⟩

instance (t : Text) : Decidable (Broken t) := decidable_of_iff _ (broken_iff t).symm

theorem ofText_of_broken {t : Text} (h : Broken t) : ofText t = refuse t := by
  unfold ofText
  cases hbreak : breakOn ':' t with
  | none => rfl
  | some sides =>
    obtain ⟨before, after⟩ := sides
    have hside : before = [] ∨ after = [] := (broken_iff t).1 h _ hbreak
    simp [hside]

/-- What is not broken is a declaration. -/
theorem exists_declares_of_not_broken {t : Text} (h : ¬ Broken t) :
    ∃ d, Declares t d ∧ ofText t = .declaration d := by
  cases hbreak : breakOn ':' t with
  | none => exact absurd (Or.inl (breakOn_eq_none_iff.1 hbreak)) h
  | some sides =>
    obtain ⟨property, value⟩ := sides
    obtain ⟨ht, hcolon⟩ := breakOn_eq_some_iff.1 hbreak
    have hsides : ¬ (property = [] ∨ value = []) := fun hside =>
      h (Or.inr ⟨property, value, ht, hcolon, hside⟩)
    rw [not_or] at hsides
    have hdeclares : Declares t ⟨lower (trim property), lower (trim value)⟩ :=
      ⟨property, value, ht, hcolon, hsides.1, hsides.2, rfl⟩
    exact ⟨_, hdeclares, ofText_eq_declaration_iff.2 hdeclares⟩

theorem broken_of_isBlankText {t : Text} (h : isBlankText t = true) : Broken t :=
  Or.inl (not_mem_of_isBlankText (by decide) h)

theorem record?_refuse (t : Text) :
    (refuse t).record? =
      if isBlankText t = true then none else some (.malformedDeclaration (trim t)) := by
  unfold refuse
  by_cases h : isBlankText t = true
  · rw [if_pos (trim_eq_nil_iff.2 h), if_pos h]
    rfl
  · rw [if_neg (mt trim_eq_nil_iff.1 h), if_neg h]
    rfl

/-- Each broken segment that is not blank has one record, in the order of the segments. -/
theorem filterMap_record? (segments : List Text) :
    (segments.map ofText).filterMap (·.record?) =
      (segments.filter fun s => Broken s ∧ isBlankText s = false).map fun s =>
        .malformedDeclaration (trim s) := by
  induction segments with
  | nil => rfl
  | cons s segments ih =>
    rw [List.map_cons, List.filterMap_cons, ih, List.filter_cons]
    by_cases hbroken : Broken s
    · rw [ofText_of_broken hbroken, record?_refuse]
      by_cases hblank : isBlankText s = true
      · simp [hblank]
      · simp [hblank, hbroken]
    · obtain ⟨d, -, hd⟩ := exists_declares_of_not_broken hbroken
      simp [hd, record?, hbroken]

/-- The other segments are the declarations, one by one. -/
theorem forall₂_declares (segments : List Text) :
    List.Forall₂ Declares (segments.filter fun s => ¬ Broken s)
      ((segments.map ofText).filterMap (·.declaration?)) := by
  induction segments with
  | nil => exact .nil
  | cons s segments ih =>
    rw [List.map_cons, List.filterMap_cons]
    by_cases hbroken : Broken s
    · rw [List.filter_cons_of_neg (by simp [hbroken]), ofText_of_broken hbroken,
        declaration?_refuse]
      exact ih
    · obtain ⟨d, hdeclares, hd⟩ := exists_declares_of_not_broken hbroken
      rw [List.filter_cons_of_pos (by simp [hbroken]), hd]
      exact .cons hdeclares ih

/-- A segment that is not blank is broken or a declaration, and a blank one is neither reported nor
a declaration. -/
theorem countP_not_blank (segments : List Text) :
    segments.countP (fun s => isBlankText s = false) =
      (segments.filter fun s => Broken s ∧ isBlankText s = false).length +
        (segments.filter fun s => ¬ Broken s).length := by
  have hwhole : ∀ s ∈ segments.filter (fun s => ¬ Broken s),
      decide (isBlankText s = false) = true := by
    intro s hs
    have hbroken : ¬ Broken s := of_decide_eq_true (List.mem_filter.1 hs).2
    exact decide_eq_true (Bool.eq_false_iff.2 (mt broken_of_isBlankText hbroken))
  have hpair : segments.countP (fun s => decide (isBlankText s = false) && decide (Broken s)) =
      segments.countP fun s => Broken s ∧ isBlankText s = false :=
    List.countP_congr fun s _ => by rw [Bool.and_eq_true, decide_eq_true_eq, decide_eq_true_eq,
      decide_eq_true_eq, and_comm]
  -- Count the broken segments and the other ones apart; of the latter none is blank.
  rw [List.countP_eq_countP_filter_add segments _ (fun s => Broken s), List.countP_filter, hpair,
    List.countP_eq_length_filter]
  simp only [← decide_not]
  rw [List.countP_eq_length.2 hwhole]

end Segment

/-! ## 3. Declarations -/

/-- A property reads a value if all of its fields are there with it. -/
theorem Property.reads_eq (p : Property) (provider : Provider) (value : Text) :
    p.reads provider value =
      !Field.all.any fun f => f.property = p && (f.encode (f.read provider value)).isNone := by
  -- By cases, since which fields a property sets is a table on both sides.
  cases p <;> simp [reads, Field.all, Field.property, Field.encode, Field.read]

namespace Declaration

def isKnown (d : Declaration) : Bool := Property.all.any fun p => d.property = p.name

/-- Holds when the value of a declaration leaves a field of its property absent. -/
def leavesAbsent (provider : Provider) (d : Declaration) : Bool :=
  Field.all.any fun f =>
    d.property = f.property.name && (f.encode (f.read provider d.value)).isNone

/-- The lines that report a declaration, of which there is at most one. -/
def reportLines (provider : Provider) (d : Declaration) : List Text :=
  if d.isKnown = false then
    [parserLine ("Ignoring unknown property ".toList ++ quoted d.property)]
  else if d.leavesAbsent provider = true then
    [parserLine ("Could not parse ".toList ++ d.property ++ " value ".toList ++ quoted d.value)]
  else []

theorem isKnown_iff {d : Declaration} : d.isKnown = true ↔ ∃ p : Property, d.property = p.name := by
  simp [isKnown, Property.mem_all]

theorem leavesAbsent_eq {d : Declaration} {p : Property} (h : d.property = p.name)
    (provider : Provider) : d.leavesAbsent provider = !p.reads provider d.value := by
  unfold leavesAbsent
  rw [Property.reads_eq, Bool.not_not, h]
  simp only [Property.name_inj, eq_comm]

theorem record?_of_not_isKnown {d : Declaration} (h : d.isKnown = false) (provider : Provider) :
    d.record? provider = some (.unknownProperty d.property) := by
  have hp : d.property? = none := by
    rw [Option.eq_none_iff_forall_ne_some]
    intro p hp
    rw [isKnown_iff.2 ⟨p, Property.ofName?_eq_some_iff.1 hp⟩] at h
    exact absurd h (by decide)
  unfold record?
  rw [hp]

/-- A known property is reported for its value alone. -/
theorem exists_record?_of_isKnown {d : Declaration} (h : d.isKnown = true)
    (provider : Provider) :
    ∃ p : Property, d.property = p.name ∧ d.record? provider =
      if d.leavesAbsent provider = true then some (.unreadableValue p d.value) else none := by
  obtain ⟨p, hname⟩ := isKnown_iff.1 h
  have hp : d.property? = some p := Property.ofName?_eq_some_iff.2 hname
  refine ⟨p, hname, ?_⟩
  have hrecord : d.record? provider =
      if p.reads provider d.value then none else some (.unreadableValue p d.value) := by
    unfold record?
    rw [hp]
  rw [hrecord, leavesAbsent_eq hname]
  cases p.reads provider d.value with
  | true => rfl
  | false => rfl

/-- The line of a record is the report of its declaration. -/
theorem map_line_record? (provider : Provider) (d : Declaration) :
    (d.record? provider).toList.map Record.line = d.reportLines provider := by
  unfold reportLines
  cases hknown : d.isKnown with
  | false =>
    rw [record?_of_not_isKnown hknown, Option.toList_some, List.map_singleton,
      Record.line_eq_parserLine rfl rfl]
    rfl
  | true =>
    obtain ⟨p, hname, hrecord⟩ := exists_record?_of_isKnown hknown provider
    rw [hrecord, hname]
    cases d.leavesAbsent provider with
    | true =>
      rw [if_pos rfl, Option.toList_some, List.map_singleton, Record.line_eq_parserLine rfl rfl]
      rfl
    | false => rfl

theorem map_line_filterMap_record? (provider : Provider) (ds : List Declaration) :
    (ds.filterMap (·.record? provider)).map Record.line = ds.flatMap (reportLines provider) := by
  induction ds with
  | nil => rfl
  | cons d ds ih =>
    rw [List.flatMap_cons, ← ih, ← map_line_record?, List.filterMap_cons]
    cases d.record? provider with
    | none => rfl
    | some r => rfl

theorem isSome_record? (provider : Provider) (d : Declaration) :
    (d.record? provider).isSome = !(d.isKnown && !d.leavesAbsent provider) := by
  cases hknown : d.isKnown with
  | false =>
    rw [record?_of_not_isKnown hknown]
    rfl
  | true =>
    obtain ⟨p, -, hrecord⟩ := exists_record?_of_isKnown hknown provider
    rw [hrecord]
    cases d.leavesAbsent provider with
    | true => rfl
    | false => rfl

/-- Each declaration has a record, or it is known and leaves nothing absent. -/
theorem length_eq_length_filterMap_record? (provider : Provider) (ds : List Declaration) :
    ds.length = (ds.filterMap (·.record? provider)).length +
      ds.countP fun d => d.isKnown && !d.leavesAbsent provider := by
  rw [List.length_filterMap_eq_countP,
    List.length_eq_countP_add_countP fun d => (d.record? provider).isSome]
  simp only [isSome_record?, Bool.not_eq_true, Bool.not_eq_false', Bool.decide_eq_true]

end Declaration

/-! ## 4. Blocks -/

namespace Style

/-- **No segment is lost silently.**  The segments of a declaration block that are not broken are
its declarations.  The records of the block are one for each broken segment that is not blank, in
their order, and after them one for each declaration of an unknown property or with a value that
leaves a field absent, in the order of the declarations.  So each segment that is not blank is
reported or is a declaration whose value was read. -/
theorem lines_recordsOfText (provider : Provider) (t : Text) :
    let segments := t.splitOn ';'
    let ds := Declaration.listOfText t
    List.Forall₂ Segment.Declares (segments.filter fun s => ¬ Segment.Broken s) ds ∧
      (recordsOfText provider t).map Record.line =
        (segments.filter fun s => Segment.Broken s ∧ isBlankText s = false).map (fun s =>
          parserLine ("Dropping malformed declaration ".toList ++ quoted (trim s))) ++
        ds.flatMap (Declaration.reportLines provider) ∧
      segments.countP (fun s => isBlankText s = false) =
        (recordsOfText provider t).length +
          ds.countP fun d => d.isKnown && !d.leavesAbsent provider := by
  intro segments ds
  have hdeclares : List.Forall₂ Segment.Declares (segments.filter fun s => ¬ Segment.Broken s) ds :=
    Segment.forall₂_declares segments
  have hbroken : (Segment.listOfText t).filterMap (·.record?) = _ :=
    Segment.filterMap_record? segments
  refine ⟨hdeclares, ?_, ?_⟩
  · unfold recordsOfText
    have hline : Record.line ∘ (fun s => .malformedDeclaration (trim s)) = fun s =>
        parserLine ("Dropping malformed declaration ".toList ++ quoted (trim s)) :=
      funext fun s => Record.line_eq_parserLine rfl rfl
    rw [List.map_append, hbroken, List.map_map, hline, Declaration.map_line_filterMap_record?]
  · -- Broken segments have a record each, declarations have one or were read.
    unfold recordsOfText
    rw [List.length_append, hbroken, List.length_map, Segment.countP_not_blank, Nat.add_assoc,
      ← Declaration.length_eq_length_filterMap_record?, hdeclares.length_eq]

example : (recordsOfText .deferred "a:1; ;:b".toList).map Record.line =
    ["DEBUG cssdecl.parser: Dropping malformed declaration ':b'".toList,
     "DEBUG cssdecl.parser: Ignoring unknown property 'a'".toList] := by decide +kernel

end Style
end Cascade
