import Cascade.Text.Basic

/-!
# Resource paths

A path starts below the working directory or at a root, and goes on with its components.  Joined to
another path, a path that starts at a root is itself.
-/

namespace Cascade.Resource

/-! ## 1. Paths -/

inductive Anchor where
  | working
  | root
  | doubleRoot
deriving DecidableEq, Repr

namespace Anchor

def ofText : Text → Anchor
  -- Exactly two slashes are a root of their own, and more of them are one.
  | '/' :: '/' :: '/' :: _ => .root
  | '/' :: '/' :: _ => .doubleRoot
  | '/' :: _ => .root
  | _ => .working

def text : Anchor → Text
  | .working => []
  | .root => ['/']
  | .doubleRoot => ['/', '/']

end Anchor

structure Path where
  anchor : Anchor
  components : List Text
deriving DecidableEq, Repr

def parentName : Text := "..".toList

namespace Path

def ofText (t : Text) : Path :=
  ⟨.ofText t, (t.splitOn '/').filter fun c => c ≠ [] && c ≠ ['.']⟩

def text (p : Path) : Text :=
  match p.anchor.text ++ List.intercalate ['/'] p.components with
  | [] => ['.']
  | t => t

def join (p q : Path) : Path :=
  match q.anchor with
  | .working => ⟨p.anchor, p.components ++ q.components⟩
  | _ => q

end Path

/-! ## 2. Extensions -/

/-- Holds for a component whose last point is neither its first nor its last character. -/
def componentHasExtension (c : Text) : Bool :=
  match Text.breakOn '.' c.reverse with
  -- Read from the back, so the first point here is the last one of the component.
  | some (after, before) => !after.isEmpty && !before.isEmpty
  | none => false

def hasExtension (name : Text) : Bool :=
  (Path.ofText name).components.getLast?.any componentHasExtension

def withExtension (extension name : Text) : Text :=
  if hasExtension name then name else name ++ '.' :: extension

end Cascade.Resource
