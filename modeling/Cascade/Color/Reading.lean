import Cascade.Color.Named
import Cascade.Color.Provider

/-! A color value is a named color, a semantic token, a hexadecimal literal or an `rgb()` literal.
The first that applies decides, even if it yields no color. -/

namespace Cascade.Color

def literal? (t : Text) : Option Rgba :=
  if ['#'].isPrefixOf t then Rgba.ofHex? t
  else if "rgb(".toList.isPrefixOf t then Rgba.ofComponents? t
  else none

def ofText? (provider : Provider) (t : Text) : Option Color :=
  match Rgba.ofName? t, Token.ofSpelling? t with
  | some c, _ => some (.rgba c)
  -- A token that the provider does not know is no color; no literal is tried after it.
  | none, some token => provider.resolve token.name
  | none, none => (literal? t).map .rgba

end Cascade.Color
