import Cascade.Color.Rgba
import Cascade.Color.Token

/-! Colors by name, of which the first entry counts.  The touch platform has a color for every
token; the desktop platform leaves out grouped backgrounds and lesser grays. -/

namespace Cascade

structure Palette where
  name : Text
  colors : List (Text × Rgba)
deriving DecidableEq

namespace Palette

def find? (p : Palette) (name : Text) : Option Rgba := p.colors.lookup name

def ofTokens (name : String) (colors : List (Token × Rgba)) : Palette :=
  ⟨name.toList, colors.map fun (token, color) => (token.name, color)⟩

def uikit : Palette := ofTokens "uikit"
  [(.primary, .ofOctets 0 0 0 255),
   (.secondary, .ofOctets 60 60 67 153),
   (.systemBackground, .ofOctets 255 255 255 255),
   (.secondarySystemBackground, .ofOctets 242 242 247 255),
   (.tertiarySystemBackground, .ofOctets 255 255 255 255),
   (.systemGroupedBackground, .ofOctets 242 242 247 255),
   (.secondarySystemGroupedBackground, .ofOctets 255 255 255 255),
   (.tertiarySystemGroupedBackground, .ofOctets 242 242 247 255),
   (.label, .ofOctets 0 0 0 255),
   (.secondaryLabel, .ofOctets 60 60 67 153),
   (.tertiaryLabel, .ofOctets 60 60 67 76),
   (.quaternaryLabel, .ofOctets 60 60 67 46),
   (.link, .ofOctets 0 122 255 255),
   (.placeholderText, .ofOctets 60 60 67 76),
   (.separator, .ofOctets 60 60 67 74),
   (.opaqueSeparator, .ofOctets 198 198 200 255),
   (.systemBlue, .ofOctets 0 122 255 255),
   (.systemGreen, .ofOctets 52 199 89 255),
   (.systemIndigo, .ofOctets 88 86 214 255),
   (.systemOrange, .ofOctets 255 149 0 255),
   (.systemPink, .ofOctets 255 45 85 255),
   (.systemPurple, .ofOctets 175 82 222 255),
   (.systemRed, .ofOctets 255 59 48 255),
   (.systemTeal, .ofOctets 48 176 199 255),
   (.systemYellow, .ofOctets 255 204 0 255),
   (.systemGray, .ofOctets 142 142 147 255),
   (.systemGray2, .ofOctets 174 174 178 255),
   (.systemGray3, .ofOctets 199 199 204 255),
   (.systemGray4, .ofOctets 209 209 214 255),
   (.systemGray5, .ofOctets 229 229 234 255),
   (.systemGray6, .ofOctets 242 242 247 255)]

def appkit : Palette := ofTokens "appkit"
  [(.primary, .ofOctets 0 0 0 217),
   (.secondary, .ofOctets 0 0 0 128),
   (.systemBackground, .ofOctets 236 236 236 255),
   (.secondarySystemBackground, .ofOctets 255 255 255 255),
   (.tertiarySystemBackground, .ofOctets 255 255 255 255),
   (.label, .ofOctets 0 0 0 217),
   (.secondaryLabel, .ofOctets 0 0 0 128),
   (.tertiaryLabel, .ofOctets 0 0 0 66),
   (.quaternaryLabel, .ofOctets 0 0 0 25),
   (.link, .ofOctets 0 104 218 255),
   (.placeholderText, .ofOctets 0 0 0 63),
   (.separator, .ofOctets 0 0 0 25),
   (.opaqueSeparator, .ofOctets 230 230 230 255),
   (.systemBlue, .ofOctets 0 122 255 255),
   (.systemGreen, .ofOctets 40 205 65 255),
   (.systemIndigo, .ofOctets 88 86 214 255),
   (.systemOrange, .ofOctets 255 149 0 255),
   (.systemPink, .ofOctets 255 45 85 255),
   (.systemPurple, .ofOctets 175 82 222 255),
   (.systemRed, .ofOctets 255 59 48 255),
   (.systemTeal, .ofOctets 89 173 196 255),
   (.systemYellow, .ofOctets 255 204 0 255),
   (.systemGray, .ofOctets 142 142 147 255)]

end Palette
end Cascade
