import Cascade.Declaration
import Cascade.Proofs.Text.Trimming

/-!
# Declarations with a property name

A blank before a segment such as `:red` makes it a declaration whose property has no name.  It sets
nothing, and the named declarations are the same with the blank and without.
-/

namespace Cascade

/-! ## 1. Blanks in front of a text -/

theorem Text.breakOn_cons_of_ne {sep c : Char} (h : c ≠ sep) (t : Text) :
    breakOn sep (c :: t) = (breakOn sep t).map fun (before, after) => (c :: before, after) := by
  rw [breakOn, if_neg h]

/-! ## 2. Declarations that set nothing -/

namespace Declaration

def isNamed (d : Declaration) : Bool := d.property ≠ []

/-- A declaration without a name sets nothing. -/
theorem apply_of_not_isNamed {d : Declaration} (h : d.isNamed = false) (provider : Provider)
    (s : Style) : d.apply provider s = s := by
  have hd : d.property = [] := by
    unfold isNamed at h
    simpa using h
  have hp : d.property? = none := by
    unfold property?
    rw [hd]
    decide
  unfold apply
  rw [hp]

end Declaration

/-- So it can be left out. -/
theorem Style.ofDeclarations_filter_isNamed (provider : Provider) (ds : List Declaration) :
    ofDeclarations provider (ds.filter Declaration.isNamed) = ofDeclarations provider ds := by
  unfold ofDeclarations
  rw [List.foldl_filter]
  congr
  funext s d
  cases hd : d.isNamed with
  | true => rfl
  | false => exact (Declaration.apply_of_not_isNamed hd provider s).symm

/-! ## 3. Segments -/

namespace Segment

def named? (segment : Segment) : Option Declaration :=
  segment.declaration?.filter Declaration.isNamed

theorem named?_refuse (t : Text) : (refuse t).named? = none := by
  unfold refuse
  split <;> rfl

theorem named?_nameless (value : Text) : (declaration ⟨[], value⟩).named? = none := rfl

theorem named?_of_breakOn_none {t : Text} (h : Text.breakOn ':' t = none) :
    (ofText t).named? = none := by
  unfold ofText
  rw [h]
  exact named?_refuse t

/-- A segment is a named declaration if the side before its colon is not blank and the other not
empty. -/
theorem named?_of_breakOn {t property value : Text}
    (h : Text.breakOn ':' t = some (property, value)) :
    (ofText t).named? =
      if Text.trim property = [] ∨ value = [] then none
      else some ⟨Text.lower (Text.trim property), Text.lower (Text.trim value)⟩ := by
  unfold ofText
  rw [h]
  dsimp only
  by_cases hname : Text.trim property = []
  · -- Be it empty or blank, the property has no name.
    rw [if_pos (Or.inl hname), hname]
    split
    · exact named?_refuse t
    · exact named?_nameless _
  · have hproperty : property ≠ [] := by
      rintro rfl
      exact hname rfl
    have hlower : Text.lower (Text.trim property) ≠ [] := mt Text.lower_eq_nil_iff.1 hname
    by_cases hvalue : value = []
    · simp [hvalue, named?_refuse]
    · simp [hproperty, hname, hvalue, named?, declaration?, Declaration.isNamed, hlower]

/-- A blank in front of a segment changes nothing but a declaration without a name. -/
theorem named?_ofText_cons {c : Char} (h : Text.isBlank c = true) (t : Text) :
    (ofText (c :: t)).named? = (ofText t).named? := by
  have hc : c ≠ ':' := by
    intro heq
    rw [heq] at h
    exact absurd h (by decide)
  have hbreak := Text.breakOn_cons_of_ne hc t
  cases ht : Text.breakOn ':' t with
  | none =>
    rw [ht] at hbreak
    rw [named?_of_breakOn_none ht, named?_of_breakOn_none hbreak]
  | some sides =>
    obtain ⟨property, value⟩ := sides
    rw [ht] at hbreak
    -- The blank joins what stands before the colon, and is trimmed away with it.
    rw [named?_of_breakOn ht, named?_of_breakOn hbreak, Text.trim_cons_of_isBlank h]

end Segment

/-! ## 4. Blocks -/

namespace Declaration

def namedOfText (t : Text) : List Declaration := (listOfText t).filter isNamed

theorem namedOfText_eq_filterMap (t : Text) :
    namedOfText t = (t.splitOn ';').filterMap fun piece => (Segment.ofText piece).named? := by
  unfold namedOfText listOfText Segment.listOfText
  rw [List.filterMap_map, List.filter_filterMap]
  rfl

/-- A blank in front of a block joins its first segment. -/
theorem namedOfText_cons_of_isBlank {c : Char} (h : Text.isBlank c = true) (t : Text) :
    namedOfText (c :: t) = namedOfText t := by
  have hc : c ≠ ';' := by
    intro heq
    rw [heq] at h
    exact absurd h (by decide)
  -- The blank joins the first piece, and the others stay.
  obtain ⟨piece, pieces, ht, hct⟩ := Text.splitOn_cons_ne hc t
  rw [namedOfText_eq_filterMap, namedOfText_eq_filterMap, ht, hct, List.filterMap_cons,
    List.filterMap_cons, Segment.named?_ofText_cons h]

/-- A semicolon separates what stands on its two sides. -/
theorem namedOfText_append_cons (a b : Text) :
    namedOfText (a ++ ';' :: b) = namedOfText a ++ namedOfText b := by
  unfold namedOfText
  rw [listOfText_append_cons, List.filter_append]

/-- Joined blocks keep the named declarations that each of them has alone. -/
theorem namedOfText_intercalate (ts : List Text) :
    namedOfText (List.intercalate "; ".toList ts) = ts.flatMap namedOfText := by
  apply Text.read_intercalate
  · rfl
  · intro a b
    show namedOfText (a ++ ';' :: ' ' :: b) = namedOfText a ++ namedOfText b
    rw [namedOfText_append_cons, namedOfText_cons_of_isBlank (by decide)]

end Declaration
end Cascade
