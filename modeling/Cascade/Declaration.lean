import Cascade.Record

/-!
# Declarations

A block is cut at semicolons, and a segment with a colon between two other characters is a
declaration.  Declarations apply in their order, so that the last one of a property decides.
-/

namespace Cascade

structure Declaration where
  property : Text
  value : Text
deriving DecidableEq, Repr

/-! ## 1. Segments -/

inductive Segment where
  | blank
  | malformed (t : Text)
  | declaration (d : Declaration)
deriving DecidableEq, Repr

namespace Segment

def refuse (t : Text) : Segment := if Text.trim t = [] then .blank else .malformed (Text.trim t)

def ofText (t : Text) : Segment :=
  match Text.breakOn ':' t with
  | some (property, value) =>
    -- A side that is only blanks counts as something here, although it trims to nothing.
    if property = [] || value = [] then refuse t
    else .declaration ⟨Text.lower (Text.trim property), Text.lower (Text.trim value)⟩
  | none => refuse t

def listOfText (t : Text) : List Segment := (t.splitOn ';').map ofText

def declaration? : Segment → Option Declaration
  | declaration d => some d
  | _ => none

def record? : Segment → Option Record
  | malformed t => some (.malformedDeclaration t)
  | _ => none

end Segment

/-! ## 2. Declarations -/

namespace Declaration

def listOfText (t : Text) : List Declaration := (Segment.listOfText t).filterMap (·.declaration?)

/-- Blocks on the two sides of a semicolon are read apart. -/
theorem listOfText_append_cons (a b : Text) :
    listOfText (a ++ ';' :: b) = listOfText a ++ listOfText b := by
  unfold listOfText Segment.listOfText
  rw [List.splitOn_append_cons_self, List.map_append, List.filterMap_append]

theorem listOfText_of_not_mem {t : Text} (h : ';' ∉ t) :
    listOfText t = (Segment.ofText t).declaration?.toList := by
  unfold listOfText Segment.listOfText
  rw [List.splitOn_eq_singleton h, List.map_singleton, List.filterMap_cons]
  cases (Segment.ofText t).declaration? with
  | none => rfl
  | some d => rfl

theorem listOfText_intercalate (pieces : List Text) :
    listOfText (List.intercalate [';'] pieces) = pieces.flatMap listOfText :=
  Text.read_intercalate rfl listOfText_append_cons pieces

def text (d : Declaration) : Text := d.property ++ ": ".toList ++ d.value

def property? (d : Declaration) : Option Property := Property.ofName? d.property

def apply (provider : Provider) (s : Style) (d : Declaration) : Style :=
  match d.property? with
  | some p => p.assign provider d.value s
  | none => s

def record? (provider : Provider) (d : Declaration) : Option Record :=
  match d.property? with
  | some p => if p.reads provider d.value then none else some (.unreadableValue p d.value)
  | none => some (.unknownProperty d.property)

end Declaration

/-! ## 3. Styles -/

namespace Style

def ofDeclarations (provider : Provider) (ds : List Declaration) : Style :=
  ds.foldl (Declaration.apply provider) empty

def ofText (provider : Provider) (t : Text) : Style :=
  ofDeclarations provider (Declaration.listOfText t)

def recordsOfText (provider : Provider) (t : Text) : List Record :=
  -- The whole block is cut up before any declaration of it is applied.
  (Segment.listOfText t).filterMap (·.record?) ++
    (Declaration.listOfText t).filterMap (·.record? provider)

/-- Later declarations apply to the style that the earlier ones have made. -/
theorem ofDeclarations_append (provider : Provider) (a b : List Declaration) :
    ofDeclarations provider (a ++ b) =
      b.foldl (Declaration.apply provider) (ofDeclarations provider a) := by
  simp [ofDeclarations]

end Style
end Cascade
