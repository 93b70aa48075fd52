import Cascade.Text.Hex

/-! Decoding is strict: it refuses over-long forms, surrogates and code points above U+10FFFF, and
it names the fault, the place and the bytes at fault. -/

namespace Cascade.Text.Utf8

/-! ## 1. Writing -/

def tailByte (n : Nat) : UInt8 := UInt8.ofNat (0x80 + n % 0x40)

def encodeChar (c : Char) : List UInt8 :=
  let n := c.toNat
  if n < 0x80 then [UInt8.ofNat n]
  else if n < 0x800 then [UInt8.ofNat (0xC0 + n / 0x40), tailByte n]
  else if n < 0x10000 then [UInt8.ofNat (0xE0 + n / 0x1000), tailByte (n / 0x40), tailByte n]
  else
    [UInt8.ofNat (0xF0 + n / 0x40000), tailByte (n / 0x1000), tailByte (n / 0x40), tailByte n]

def encode (t : Text) : List UInt8 := t.flatMap encodeChar

/-! ## 2. Reading -/

inductive Fault where
  | startByte
  | continuationByte
  | endOfData
deriving DecidableEq, Repr

structure Refusal where
  position : Nat
  bytes : List UInt8
  fault : Fault
deriving DecidableEq, Repr

def isTail (b : UInt8) : Bool := 0x80 ≤ b && b ≤ 0xBF

def isSecond (lead b : UInt8) : Bool :=
  -- After these four first bytes a part of the tail bytes would spell a character that has a
  -- shorter form, a surrogate, or a code point above U+10FFFF.
  isTail b && !(lead == 0xE0 && b < 0xA0) && !(lead == 0xED && b ≥ 0xA0) &&
    !(lead == 0xF0 && b < 0x90) && !(lead == 0xF4 && b ≥ 0x90)

def payload (marker : Nat) (b : UInt8) : Nat := b.toNat - marker

def decodeFrom (position : Nat) : List UInt8 → Except Refusal Text
  | [] => .ok []
  | a :: r =>
    if a < 0x80 then
      (decodeFrom (position + 1) r).map (Char.ofNat a.toNat :: ·)
    -- Tail bytes start nothing, and 0xC0 and 0xC1 only over-long forms.
    else if a < 0xC2 || a > 0xF4 then .error ⟨position, [a], .startByte⟩
    else
      match r with
      | [] => .error ⟨position, [a], .endOfData⟩
      | b :: r =>
        if !isSecond a b then .error ⟨position, [a], .continuationByte⟩
        else if a < 0xE0 then
          (decodeFrom (position + 2) r).map
            (Char.ofNat (payload 0xC0 a * 0x40 + payload 0x80 b) :: ·)
        else
          match r with
          | [] => .error ⟨position, [a, b], .endOfData⟩
          | c :: r =>
            if !isTail c then .error ⟨position, [a, b], .continuationByte⟩
            else if a < 0xF0 then
              (decodeFrom (position + 3) r).map
                (Char.ofNat (payload 0xE0 a * 0x1000 + payload 0x80 b * 0x40 + payload 0x80 c) :: ·)
            else
              match r with
              | [] => .error ⟨position, [a, b, c], .endOfData⟩
              | d :: r =>
                if !isTail d then .error ⟨position, [a, b, c], .continuationByte⟩
                else
                  (decodeFrom (position + 4) r).map
                    (Char.ofNat (payload 0xF0 a * 0x40000 + payload 0x80 b * 0x1000 +
                      payload 0x80 c * 0x40 + payload 0x80 d) :: ·)

def decode (bytes : List UInt8) : Except Refusal Text := decodeFrom 0 bytes

/-! ## 3. Naming the fault -/

def Fault.message : Fault → Text
  | .startByte => "invalid start byte".toList
  | .continuationByte => "invalid continuation byte".toList
  | .endOfData => "unexpected end of data".toList

def Refusal.place (r : Refusal) : Text :=
  let first := Nat.toDigits 10 r.position
  match r.bytes with
  | [b] => "byte 0x".toList ++ hexDigits 2 b.toNat ++ " in position ".toList ++ first
  | bytes =>
    "bytes in position ".toList ++ first ++ '-' :: Nat.toDigits 10 (r.position + bytes.length - 1)

def Refusal.message (r : Refusal) : Text :=
  "'utf-8' codec can't decode ".toList ++ r.place ++ ": ".toList ++ r.fault.message

example : decode (encode ['a', 'é', '€', '😀']) = .ok ['a', 'é', '€', '😀'] := by rfl

example : decode [0x61, 0xE2, 0x82] = .error ⟨1, [0xE2, 0x82], .endOfData⟩ := by rfl

example : decode [0xED, 0xA0, 0x80] = .error ⟨0, [0xED], .continuationByte⟩ := by rfl

end Cascade.Text.Utf8
