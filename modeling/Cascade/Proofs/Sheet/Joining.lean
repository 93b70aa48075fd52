import Cascade.Proofs.Style.LastDeclaration
import Cascade.Proofs.Style.NamedDeclarations
import Cascade.Sheet.Reading

/-!
# The style of several classes

Texts that are joined keep all of their declarations that set anything, so the classes are read as
if one after the other.
-/

namespace Cascade.Sheet

/-- The declarations of the known classes among the names, each class read on its own. -/
def declarationsOf (s : Sheet) (names : List Text) : List Declaration :=
  (names.filterMap s.css?).flatMap Declaration.listOfText

/-- The value of the last declaration of a property in the last of the classes that has one. -/
def lastValue? (s : Sheet) (names : List Text) (p : Property) : Option Text :=
  names.reverse.findSome? fun name =>
    (s.css? name).bind fun t => Declaration.lastValue? p (Declaration.listOfText t)

/-- Joining changes no declaration that has a property name. -/
theorem namedOfText_resolve (s : Sheet) (names : List Text) :
    Declaration.namedOfText (s.resolve names) =
      (s.declarationsOf names).filter Declaration.isNamed := by
  unfold resolve declarationsOf
  rw [Declaration.namedOfText_intercalate, List.filter_flatMap]
  rfl

/-- The style of classes is made by their declarations. -/
theorem style_eq_ofDeclarations (s : Sheet) (provider : Provider) (names : List Text) :
    s.style provider names = Style.ofDeclarations provider (s.declarationsOf names) := by
  unfold style Style.ofText
  -- Declarations without a name come in on one side only, so both sides are rid of them first.
  rw [← Style.ofDeclarations_filter_isNamed]
  show Style.ofDeclarations provider (Declaration.namedOfText (s.resolve names)) = _
  rw [namedOfText_resolve, Style.ofDeclarations_filter_isNamed]

/-- The last of these declarations is the last one of the last class that has any. -/
theorem lastValue?_declarationsOf (s : Sheet) (names : List Text) (p : Property) :
    Declaration.lastValue? p (s.declarationsOf names) = s.lastValue? names p := by
  unfold declarationsOf lastValue?
  rw [Declaration.lastValue?_flatMap, ← List.filterMap_reverse, ← List.head?_filterMap,
    List.filterMap_filterMap, List.head?_filterMap]

/-- **The cascade.**  The style of several classes is the one that the declarations of the known
classes make, each class read on its own and one class after the other; of these declarations the
joined text loses none that has a property name, and it changes none.  A field holds what the last
declaration of its property gives it, in the last of the classes that has one, and its default if
no class has any. -/
theorem style_eq_of_classes (s : Sheet) (provider : Provider) (names : List Text) :
    s.style provider names = Style.ofDeclarations provider (s.declarationsOf names) ∧
      (Declaration.listOfText (s.resolve names)).filter Declaration.isNamed =
        (s.declarationsOf names).filter Declaration.isNamed ∧
      ∀ f : Field, (s.style provider names).get f =
        f.ofLastValue provider (s.lastValue? names f.property) := by
  refine ⟨style_eq_ofDeclarations s provider names, namedOfText_resolve s names, ?_⟩
  intro f
  rw [style_eq_ofDeclarations, Style.get_ofDeclarations, lastValue?_declarationsOf]

end Cascade.Sheet
