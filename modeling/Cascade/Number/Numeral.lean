import Cascade.Number.Binary64
import Cascade.Text.Digit

/-!
# Decimal numerals

A numeral has an optional sign, digits of any script with an optional point, and an optional
exponent.  It stands for `significand * 10 ^ exponent` and for the double nearest to that.
-/

namespace Cascade

structure Numeral where
  negative : Bool
  significand : Nat
  exponent : Int
deriving DecidableEq, Repr

namespace Numeral
open Text

def readSign : Text → Bool × Text
  | '-' :: rest => (true, rest)
  | '+' :: rest => (false, rest)
  | t => (false, t)

def digitsValue (digits : Text) : Nat :=
  digits.foldl (fun n c => 10 * n + (digitValue? c).getD 0) 0

def readExponent? : Text → Option Int
  | [] => some 0
  -- Whatever follows the digits must be an exponent and nothing else.
  | mark :: rest =>
    let (negative, digits) := readSign rest
    if (mark = 'e' || mark = 'E') && !digits.isEmpty && digits.all isDigit then
      some (if negative then -digitsValue digits else digitsValue digits)
    else none

def assemble (negative : Bool) (whole fraction : Text) (exponent : Int) : Numeral :=
  ⟨negative, digitsValue (whole ++ fraction), exponent - fraction.length⟩

def readUnsigned? (negative : Bool) (t : Text) : Option Numeral :=
  let whole := t.takeWhile isDigit
  match t.dropWhile isDigit with
  | '.' :: rest =>
    let fraction := rest.takeWhile isDigit
    -- A point alone is no number, but it may stand before or after all the digits.
    if whole.isEmpty && fraction.isEmpty then none
    else (readExponent? (rest.dropWhile isDigit)).map (assemble negative whole fraction)
  | rest => if whole.isEmpty then none else (readExponent? rest).map (assemble negative whole [])

def ofText? (t : Text) : Option Numeral :=
  let (negative, rest) := readSign t
  readUnsigned? negative rest

def toBinary64 (n : Numeral) : Binary64 := .ofDecimal n.negative n.significand n.exponent

example : ofText? ['-', '1', '.', '5', 'e', '3'] = some ⟨true, 15, 2⟩ := by decide

example : ofText? ['.', 'e', '3'] = none := by decide

end Numeral

def Binary64.ofText? (t : Text) : Option Binary64 :=
  (Numeral.ofText? t).bind fun n => if n.toBinary64.isFinite then some n.toBinary64 else none

/-- A numeral that is too large is refused, so that nothing infinite is ever read. -/
theorem Binary64.isFinite_of_ofText? {t : Text} {x : Binary64} (h : ofText? t = some x) :
    x.isFinite = true := by
  obtain ⟨n, _, hx⟩ := Option.bind_eq_some_iff.1 h
  split at hx
  · simp only [Option.some.injEq] at hx
    rwa [← hx]
  · simp at hx

end Cascade
