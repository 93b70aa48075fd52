import Cascade.Color.Palette
import Cascade.Text.Case
import Cascade.Text.Quoted

/-! A provider turns the name of a semantic color into a color, or into nothing where its platform
has none.  The deferred provider keeps the token for the renderer. -/

namespace Cascade

inductive Color where
  | rgba (channels : Rgba)
  | semantic (token : Token)
deriving DecidableEq

def Color.same : Color → Color → Bool
  | .rgba a, .rgba b => a.same b
  | .semantic a, .semantic b => a = b
  | _, _ => false

inductive Provider where
  | deferred
  | palette (p : Palette)
  /-- No semantic colors at all. -/
  | empty
  /-- The colors that a host platform gives by a rule of its own. -/
  | host (colors : Text → Option Color)

namespace Provider

def resolve : Provider → Text → Option Color
  -- Only here is a color left for the renderer; the other providers decide at once.
  | .deferred, name => (Token.ofName? name).map .semantic
  | .palette p, name => (p.find? name).map .rgba
  | .empty, _ => none
  | .host colors, name => colors name

/-- How a palette provider shows itself; the others have no text. -/
def description? : Provider → Option Text
  | .palette p =>
    some ("PaletteColorProvider(".toList ++ Text.quoted p.name ++ ", ".toList ++
      Nat.toDigits 10 p.colors.length ++ " colors)".toList)
  | _ => none

/-- The deferred provider answers for the name of every token. -/
theorem resolve_deferred_name (token : Token) :
    deferred.resolve token.name = some (.semantic token) := by
  simp [resolve, Token.ofName?_name]

end Provider

/-! ## The platforms -/

inductive Platform where
  | deferred
  | uikit
  | appkit
  | plain
deriving DecidableEq, Repr

namespace Platform

def all : List Platform := [.deferred, .uikit, .appkit, .plain]

def name : Platform → Text
  | .deferred => "deferred".toList
  | .uikit => "uikit".toList
  | .appkit => "appkit".toList
  | .plain => "none".toList

def ofText? (t : Text) : Option Platform := all.find? (·.name = Text.lower t)

theorem ofText?_name (p : Platform) : ofText? p.name = some p := by
  cases p <;> decide +kernel

def provider : Platform → Provider
  | .deferred => .deferred
  | .uikit => .palette .uikit
  | .appkit => .palette .appkit
  | .plain => .empty

end Platform

structure UnknownPlatform where
  name : Text
deriving DecidableEq, Repr

def UnknownPlatform.message (e : UnknownPlatform) : Text :=
  "Unknown platform ".toList ++ Text.quoted e.name ++ "; expected one of: ".toList ++
    List.intercalate ", ".toList (Platform.all.map Platform.name)

def Provider.ofPlatform (name : Text) : Except UnknownPlatform Provider :=
  match Platform.ofText? name with
  | some platform => .ok platform.provider
  | none => .error ⟨name⟩

end Cascade
