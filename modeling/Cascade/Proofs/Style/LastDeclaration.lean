import Cascade.Proofs.Style.Field

/-!
# The last declaration decides

Each declaration overwrites the fields of its property, so that the last one of a property counts.
-/

namespace Cascade

/-! ## 1. The last value of a property -/

namespace Declaration

def lastValue? (p : Property) (ds : List Declaration) : Option Text :=
  (ds.reverse.find? fun d => d.property = p.name).map (·.value)

/-- The last of joined declarations is looked for in the second list first. -/
theorem lastValue?_append (p : Property) (a b : List Declaration) :
    lastValue? p (a ++ b) = (lastValue? p b).or (lastValue? p a) := by
  unfold lastValue?
  rw [List.reverse_append, List.find?_append, Option.map_or]

theorem lastValue?_singleton (p : Property) (d : Declaration) :
    lastValue? p [d] = if d.property = p.name then some d.value else none := by
  by_cases h : d.property = p.name
  · simp [lastValue?, h]
  · simp [lastValue?, h]

theorem lastValue?_cons (p : Property) (d : Declaration) (ds : List Declaration) :
    lastValue? p (d :: ds) =
      (lastValue? p ds).or (if d.property = p.name then some d.value else none) := by
  rw [← List.singleton_append, lastValue?_append, lastValue?_singleton]

/-- The last of several groups with a declaration of the property decides. -/
theorem lastValue?_flatMap {α : Type} (p : Property) (declarations : α → List Declaration)
    (items : List α) :
    lastValue? p (items.flatMap declarations) =
      items.reverse.findSome? fun item => lastValue? p (declarations item) := by
  induction items with
  | nil => rfl
  | cons item rest ih =>
    rw [List.flatMap_cons, lastValue?_append, ih, List.reverse_cons, List.findSome?_append,
      List.findSome?_singleton]

/-- What it means to be the last: the property has no declaration after this one. -/
theorem lastValue?_eq_some_iff {p : Property} {ds : List Declaration} {value : Text} :
    lastValue? p ds = some value ↔
      ∃ before after, ds = before ++ ⟨p.name, value⟩ :: after ∧
        ∀ d ∈ after, d.property ≠ p.name := by
  unfold lastValue?
  rw [Option.map_eq_some_iff]
  constructor
  -- The search runs from the back, so what it passes over stands after the declaration.
  · intro h
    rcases h with ⟨d, hd, rfl⟩
    obtain ⟨hp, later, earlier, hsplit, hlater⟩ := List.find?_eq_some_iff_append.1 hd
    have hname : d.property = p.name := of_decide_eq_true hp
    refine ⟨earlier.reverse, later.reverse, ?_, ?_⟩
    · rw [← List.reverse_reverse ds, hsplit, ← hname]
      simp
    · intro e he
      have hne := hlater e (List.mem_reverse.1 he)
      simpa using hne
  · intro h
    rcases h with ⟨before, after, rfl, hafter⟩
    refine ⟨⟨p.name, value⟩, ?_, rfl⟩
    apply List.find?_eq_some_iff_append.2
    refine ⟨by simp, after.reverse, before.reverse, by simp, ?_⟩
    intro e he
    have hne := hafter e (List.mem_reverse.1 he)
    simpa using hne

/-- Declarations of other properties can be left out. -/
theorem lastValue?_filter (p : Property) (ds : List Declaration) :
    lastValue? p (ds.filter fun d => d.property = p.name) = lastValue? p ds := by
  unfold lastValue?
  rw [← List.filter_reverse, List.find?_filter]
  simp only [decide_eq_true_eq, and_self]

/-- So can every group that has no declaration of the property. -/
theorem lastValue?_flatMap_filter {α : Type} {p : Property} {declarations : α → List Declaration}
    {keep : α → Bool} {items : List α}
    (h : ∀ item ∈ items, keep item = false → lastValue? p (declarations item) = none) :
    lastValue? p ((items.filter keep).flatMap declarations) =
      lastValue? p (items.flatMap declarations) := by
  induction items with
  | nil => rfl
  | cons item rest ih =>
    -- The rest is rewritten to the filtered rest, so only the head is left to look at.
    have hrest := ih fun other hother => h other (List.mem_cons_of_mem item hother)
    rw [List.flatMap_cons, lastValue?_append, ← hrest]
    cases hkeep : keep item with
    | true => rw [List.filter_cons_of_pos hkeep, List.flatMap_cons, lastValue?_append]
    | false =>
      rw [List.filter_cons_of_neg (by simp [hkeep]), h item List.mem_cons_self hkeep,
        Option.or_none]

/-- A segment that is no declaration of the property gives it no value. -/
theorem lastValue?_segment {p : Property} {segment : Text} (hsep : ';' ∉ segment)
    (hother : ∀ d, Segment.ofText segment = .declaration d → d.property ≠ p.name) :
    lastValue? p (listOfText segment) = none := by
  rw [listOfText_of_not_mem hsep]
  cases hs : Segment.ofText segment with
  | blank => rfl
  | malformed t => rfl
  | declaration d =>
    show lastValue? p [d] = none
    rw [lastValue?_singleton, if_neg (hother d hs)]

end Declaration

/-! ## 2. Fields after a list of declarations -/

/-- What a field holds when the last declaration of its property, if there is any, has a value. -/
def Field.ofLastValue (f : Field) (provider : Provider) : Option Text → f.Value
  | some value => f.read provider value
  | none => f.default

namespace Style

/-- Applied one after the other, declarations leave a field as the last one of its property sets it.
-/
theorem get_foldl_apply (provider : Provider) (f : Field) (ds : List Declaration) (s : Style) :
    (ds.foldl (Declaration.apply provider) s).get f =
      match Declaration.lastValue? f.property ds with
      | some value => f.read provider value
      | none => s.get f := by
  induction ds generalizing s with
  | nil => rfl
  | cons d ds ih =>
    rw [List.foldl_cons, ih, Declaration.lastValue?_cons]
    cases Declaration.lastValue? f.property ds with
    | some value => rfl
    | none =>
      -- No later declaration of the property is left, so the first one decides if it is one.
      rw [Option.none_or, get_apply]
      by_cases hd : d.property = f.property.name
      · rw [if_pos hd, if_pos hd]
      · rw [if_neg hd, if_neg hd]

theorem get_ofDeclarations (provider : Provider) (ds : List Declaration) (f : Field) :
    (ofDeclarations provider ds).get f =
      f.ofLastValue provider (Declaration.lastValue? f.property ds) := by
  unfold ofDeclarations
  rw [get_foldl_apply]
  cases Declaration.lastValue? f.property ds with
  | some value => rfl
  | none => exact get_empty f

/-- **The last declaration decides.**  A field of the style of a declaration block holds what the
last declaration of its property gives it, and its default if there is none.  With every other
declaration of the block taken out it holds the same, and so it does with any segments taken out
that are no declarations of its property, be they declarations of other properties, of unknown
properties, or none at all. -/
theorem get_ofText_eq_ofLastValue (provider : Provider) (t : Text) (f : Field) :
    (ofText provider t).get f =
        f.ofLastValue provider (Declaration.lastValue? f.property (Declaration.listOfText t)) ∧
      (ofText provider t).get f =
        (ofDeclarations provider
          ((Declaration.listOfText t).filter fun d => d.property = f.property.name)).get f ∧
      ∀ keep : Text → Bool,
        (∀ segment ∈ t.splitOn ';', keep segment = false →
          ∀ d, Segment.ofText segment = .declaration d → d.property ≠ f.property.name) →
        (ofText provider t).get f =
          (ofText provider (List.intercalate [';'] ((t.splitOn ';').filter keep))).get f := by
  have hlast (u : Text) : (ofText provider u).get f =
      f.ofLastValue provider (Declaration.lastValue? f.property (Declaration.listOfText u)) :=
    get_ofDeclarations provider (Declaration.listOfText u) f
  refine ⟨hlast t, ?_, ?_⟩
  · rw [hlast, get_ofDeclarations, Declaration.lastValue?_filter]
  · intro keep hout
    -- A segment is a block of its own, and the block is its segments one after the other.
    have hsegments : ∀ segment ∈ t.splitOn ';', keep segment = false →
        Declaration.lastValue? f.property (Declaration.listOfText segment) = none := by
      intro segment hsegment hkeep
      have hsep : ';' ∉ segment := Text.not_mem_of_mem_splitOn hsegment
      exact Declaration.lastValue?_segment hsep (hout segment hsegment hkeep)
    have ht : Declaration.listOfText t = (t.splitOn ';').flatMap Declaration.listOfText := by
      rw [← Declaration.listOfText_intercalate, List.intercalate_splitOn]
    rw [hlast, hlast, Declaration.listOfText_intercalate,
      Declaration.lastValue?_flatMap_filter hsegments, ht]

/-- A misspelt property between two declarations of a color leaves the color alone, which is absent
as the last of the two cannot be read. -/
theorem get_foregroundColor_misspelt :
    let t := "color: red; colour: blue; color: #ddd; :".toList
    (ofText .deferred t).get .foregroundColor = (none : Option Color) ∧
      (ofText .deferred t).get .foregroundColor =
        (ofText .deferred "color: red; color: #ddd".toList).get .foregroundColor := by
  intro t
  obtain ⟨hlast, -, hkeep⟩ := get_ofText_eq_ofLastValue .deferred t .foregroundColor
  have hother : ∀ segment ∈ t.splitOn ';', Text.occursIn "color:".toList segment = false →
      ∀ d ∈ (Segment.ofText segment).declaration?, d.property ≠ Property.color.name := by
    decide +kernel
  have hvalue : Declaration.lastValue? .color (Declaration.listOfText t) = some "#ddd".toList := by
    decide +kernel
  constructor
  · rw [hlast]
    show Field.ofLastValue .foregroundColor .deferred
      (Declaration.lastValue? .color (Declaration.listOfText t)) = none
    rw [hvalue]
    show Color.ofText? .deferred "#ddd".toList = none
    decide +kernel
  · apply hkeep (Text.occursIn "color:".toList)
    intro segment hsegment hout d hd
    apply hother segment hsegment hout
    rw [hd]
    rfl

end Style
end Cascade
