import Cascade.Font.Size
import Cascade.Font.Weight

/-! What a renderer needs to choose a font. -/

namespace Cascade

structure Font where
  size : FontSize
  weight : Option FontWeight
  italic : Bool
deriving DecidableEq

def Font.isItalic (t : Text) : Bool := t = "italic".toList

end Cascade
