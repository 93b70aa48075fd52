import Cascade.Color.Rgba

/-! The colors that a declaration calls by an English name. -/

namespace Cascade.Rgba

def named : List (Text × Rgba) :=
  [("red".toList, ofOctets 255 0 0 255),
   ("blue".toList, ofOctets 0 0 255 255),
   ("green".toList, ofOctets 0 128 0 255),
   ("black".toList, ofOctets 0 0 0 255),
   ("white".toList, ofOctets 255 255 255 255),
   ("gray".toList, ofOctets 128 128 128 255),
   ("grey".toList, ofOctets 128 128 128 255),
   ("orange".toList, ofOctets 255 165 0 255),
   ("yellow".toList, ofOctets 255 255 0 255),
   ("pink".toList, ofOctets 255 192 203 255),
   ("purple".toList, ofOctets 128 0 128 255),
   ("cyan".toList, ofOctets 0 255 255 255),
   ("mint".toList, ofOctets 0 199 190 255),
   ("teal".toList, ofOctets 0 128 128 255),
   ("indigo".toList, ofOctets 75 0 130 255)]

def ofName? (t : Text) : Option Rgba := named.lookup t

end Cascade.Rgba
