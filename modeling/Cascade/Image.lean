import Cascade.Style.Basic

/-! A background image names a symbol or an asset, by a catalog of the symbols or, without one, by
the point that symbol names usually hold. -/

namespace Cascade

inductive ImageKind where
  | symbol
  | asset
deriving DecidableEq, Repr

def ImageKind.name : ImageKind → Text
  | .symbol => "symbol".toList
  | .asset => "asset".toList

structure Image where
  name : Text
  kind : ImageKind
deriving DecidableEq, Repr

inductive ImageResolver where
  | catalog (symbols : List Text)
  | dottedNames

namespace ImageResolver

def isSymbol : ImageResolver → Text → Bool
  | catalog symbols, name => symbols.contains name
  | dottedNames, name => name.contains '.'

def resolve (r : ImageResolver) (name : Text) : Image :=
  ⟨name, if r.isSymbol name then .symbol else .asset⟩

end ImageResolver

def Style.image? (s : Style) (r : ImageResolver) : Option Image :=
  match s.backgroundImage with
  | none | some [] => none
  | some name => some (r.resolve name)

end Cascade
