import Cascade.Number.Shortest
import Cascade.Text.Blank
import Cascade.Text.Hex

/-! The four channels of a color, of which only writing clamps the ones beyond full intensity. -/

namespace Cascade

structure Rgba where
  red : Binary64
  green : Binary64
  blue : Binary64
  opacity : Binary64
deriving DecidableEq

inductive ChannelError where
  | quotientTooLarge
  | infinite
  | nan
deriving DecidableEq, Repr

def ChannelError.message : ChannelError → Text
  | .quotientTooLarge => "integer division result too large for a float".toList
  | .infinite => "cannot convert float infinity to integer".toList
  | .nan => "cannot convert float NaN to integer".toList

namespace Rgba
open Text

/-! ## 1. From integers -/

/-- The channel of an integer of which 255 is full intensity. -/
def channelOfInt (n : Int) : Except ChannelError Binary64 :=
  -- The exact quotient is rounded once; only one beyond every double is refused.
  let x := Binary64.ofRatio (n < 0) n.natAbs 255
  if x.isFinite then .ok x else .error .quotientTooLarge

def ofInts (red green blue opacity : Int) : Except ChannelError Rgba := do
  let r ← channelOfInt red
  let g ← channelOfInt green
  let b ← channelOfInt blue
  let a ← channelOfInt opacity
  return ⟨r, g, b, a⟩

def channelOfOctet (n : Nat) : Binary64 := .ofRatio false n 255

def ofOctets (red green blue opacity : Nat) : Rgba :=
  ⟨channelOfOctet red, channelOfOctet green, channelOfOctet blue, channelOfOctet opacity⟩

/-! ## 2. Hexadecimal notation -/

def octet (x : Binary64) : Except ChannelError Nat :=
  match x.mulNat 255 with
  | .nan => .error .nan
  | scaled =>
    match scaled.roundToInt? with
    -- A negative channel has the octet zero.
    | some n => .ok (min n.toNat 255)
    | none => .error .infinite

def shownChannels (c : Rgba) : List Binary64 :=
  -- The opacity is shown only where it is not full.
  if c.opacity.same .one then [c.red, c.green, c.blue]
  else [c.red, c.green, c.blue, c.opacity]

def hex (c : Rgba) : Except ChannelError Text := do
  -- The first channel without an octet decides the error.
  let octets ← c.shownChannels.mapM octet
  return '#' :: octets.flatMap (hexDigits 2)

def octets? : Text → Option (List Nat)
  | [] => some []
  | [_] => none
  | a :: b :: rest =>
    match hexValue? a, hexValue? b, octets? rest with
    | some x, some y, some ns => some ((16 * x + y) :: ns)
    | _, _, _ => none

def dropNumberSign : Text → Text
  | '#' :: rest => rest
  | t => t

def ofHex? (t : Text) : Option Rgba :=
  -- Blanks may stand around the digits, and one number sign before them.
  match octets? (dropNumberSign (trim t)) with
  | some [r, g, b] => some (ofOctets r g b 255)
  | some [r, g, b, a] => some (ofOctets r g b a)
  | _ => none

/-! ## 3. The components of `rgb()` -/

def components (t : Text) : Text :=
  -- Either end of the call may be missing.
  let t := trim t
  let t := ("rgb(".toList.isPrefixOf? t).getD t
  ([')'].isSuffixOf? t).getD t

def ofComponents? (t : Text) : Option Rgba :=
  match ((components t).splitOn ',').map fun part => Binary64.ofText? (trim part) with
  | [some r, some g, some b] => some ⟨r.divNat 255, g.divNat 255, b.divNat 255, .one⟩
  | _ => none

/-! ## 4. Equality of values -/

def same (a b : Rgba) : Bool :=
  a.red.same b.red && a.green.same b.green && a.blue.same b.blue && a.opacity.same b.opacity

end Rgba
end Cascade
