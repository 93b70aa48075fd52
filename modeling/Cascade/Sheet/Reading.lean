import Cascade.Declaration
import Cascade.Resource.Source
import Cascade.Sheet.Basic
import Cascade.Sheet.Block

/-!
# Reading stylesheets and resolving classes

A stylesheet text defines the selectors of its rules one by one.  The declarations of several
classes are joined in the order of the classes, so that later classes override earlier ones.
-/

namespace Cascade.Sheet

/-! ## 1. Reading -/

def definitionsOfText (t : Text) : List (Text × Text) :=
  (Block.listOfText t).flatMap Block.definitions

def defineAll (s : Sheet) (definitions : List (Text × Text)) : Sheet :=
  definitions.foldl (fun s (name, text) => s.define name text) s

def parse (s : Sheet) (t : Text) : Sheet := s.defineAll (definitionsOfText t)

def ofText (t : Text) : Sheet := empty.parse t

def recordsOfText (t : Text) : List Record :=
  ((Block.listOfText t).filterMap (·.lost?)).map .malformedBlock

/-- Definitions are made one after the other, so lists of them can be cut anywhere. -/
theorem defineAll_append (s : Sheet) (a b : List (Text × Text)) :
    s.defineAll (a ++ b) = (s.defineAll a).defineAll b := by
  simp [defineAll]

def load (s : Sheet) (name : Text) (source : TextSource) :
    Except EmbeddedNul (Option Sheet × List Record) :=
  (source.read name).map fun
    | (some t, records) =>
      let s' := s.parse t
      (some s', records ++ recordsOfText t ++ [.resourceLoaded name s'.size])
    -- A resource that is not found leaves the stylesheet as it was.
    | (none, records) => (none, records ++ [.resourceNotLoaded name])

/-! ## 2. Resolving -/

def resolve (s : Sheet) (names : List Text) : Text :=
  -- A name that is given twice contributes twice, and an unknown one nothing.
  List.intercalate "; ".toList (names.filterMap s.css?)

def recordsOfNames (s : Sheet) (names : List Text) : List Record :=
  (names.filter fun name => (s.css? name).isNone).map .unknownClass

def style (s : Sheet) (provider : Provider) (names : List Text) : Style :=
  Style.ofText provider (s.resolve names)

def recordsOfStyle (s : Sheet) (provider : Provider) (names : List Text) : List Record :=
  s.recordsOfNames names ++ Style.recordsOfText provider (s.resolve names)

/-! ## 3. Class attributes -/

def splitClassNames (t : Text) : List Text :=
  (t.splitOn ' ').filter fun name => Text.trim name ≠ []

inductive ClassNames where
  | list (names : List Text)
  | spaced (t : Text)

def ClassNames.toList : ClassNames → List Text
  | list names => names
  | spaced t => splitClassNames t

def styleOf (s : Sheet) (provider : Provider) (classes : ClassNames) : Style :=
  s.style provider classes.toList

def recordsOfStyleOf (s : Sheet) (provider : Provider) (classes : ClassNames) : List Record :=
  s.recordsOfStyle provider classes.toList

end Cascade.Sheet
