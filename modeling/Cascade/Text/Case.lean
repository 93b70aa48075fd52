import Cascade.Text.CaseTable

/-! One character may become several.  A capital sigma becomes the final small sigma when it ends a
word, which is read off the nearest characters that are not case-ignorable. -/

namespace Cascade.Text

/-! ## 1. Small letters -/

/-- The lower case of a code point, where that is a single code point. -/
def lowerCode (n : Nat) : Nat := (lowerRuns.findSome? (·.image? n)).getD n

def lowerChar (c : Char) : Char := Char.ofNat (lowerCode c.toNat)

def startsCased (t : Text) : Bool :=
  match t.dropWhile caseIgnorableSpans.contains with
  | [] => false
  | c :: _ => casedSpans.contains c

/-- The lower case of a character between the text before it, nearest character first, and the
text after it. -/
def lowerBetween (before : Text) (c : Char) (after : Text) : Text :=
  if c = '\u03A3' then
    if startsCased before && !startsCased after then ['\u03C2'] else ['\u03C3']
  -- The dotted capital i is the one character with a lower case of two.
  else if c = '\u0130' then ['i', '\u0307']
  else [lowerChar c]

def lowerAfter : (before : Text) → Text → Text
  | _, [] => []
  | before, c :: rest => lowerBetween before c rest ++ lowerAfter (c :: before) rest

def lower (t : Text) : Text := lowerAfter [] t

@[simp] theorem lower_nil : lower [] = [] := rfl

theorem lowerBetween_ne_nil (before : Text) (c : Char) (after : Text) :
    lowerBetween before c after ≠ [] := by
  unfold lowerBetween
  split
  · split <;> simp
  · split <;> simp

/-- No character vanishes in lower case. -/
theorem lower_eq_nil_iff {t : Text} : lower t = [] ↔ t = [] := by
  cases t with
  | nil => simp
  | cons c rest => simp [lower, lowerAfter, lowerBetween_ne_nil]

/-! ## 2. Capital letters -/

def upperCodes (n : Nat) : List Nat :=
  match upperExpansions.lookup n with
  | some several => several
  | none => [(upperRuns.findSome? (·.image? n)).getD n]

def upper (t : Text) : Text := t.flatMap fun c => (upperCodes c.toNat).map Char.ofNat

@[simp] theorem upper_nil : upper [] = [] := rfl

end Cascade.Text
