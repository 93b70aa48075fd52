import Cascade.Proofs.Number.Decimal
import Cascade.Proofs.Text.Runs
import Mathlib.Data.Nat.Digits.Defs

/-!
# How numbers are written

A spelling is a number as it is written, with digits of any scripts, and it stands for what its
places count.  Reading accepts the texts of spellings and no others.
-/

namespace Cascade

/-! ## 1. Digits -/

structure Digit where
  zero : Nat
  value : Nat
  zero_mem : zero ∈ Text.digitZeros
  value_lt : value < 10

namespace Digit

def char (d : Digit) : Char := Char.ofNat (d.zero + d.value)

def text (digits : List Digit) : Text := digits.map char

def number (digits : List Digit) : Nat := Nat.ofDigits 10 (digits.map value).reverse

theorem toNat_char (d : Digit) : d.char.toNat = d.zero + d.value := by
  have hvalid : ∀ z ∈ Text.digitZeros, ∀ v : Fin 10, (Char.ofNat (z + v)).toNat = z + v := by
    decide +kernel
  exact hvalid d.zero d.zero_mem ⟨d.value, d.value_lt⟩

/-- The digits of two scripts lie apart. -/
theorem zero_eq_of_le_of_le {z z' n : Nat} (hz : z ∈ Text.digitZeros) (hz' : z' ∈ Text.digitZeros)
    (h : z ≤ n ∧ n ≤ z + 9) (h' : z' ≤ n ∧ n ≤ z' + 9) : z = z' := by
  have hruns : ∀ a ∈ Text.digitZeros, ∀ b ∈ Text.digitZeros, a ≠ b → a + 9 < b ∨ b + 9 < a := by
    decide +kernel
  by_contra hne
  have happart := hruns z hz z' hz' hne
  omega

/-- A digit is found under the zero of its own script. -/
theorem digitValue?_char (d : Digit) : Text.digitValue? d.char = some d.value := by
  have hrun : d.zero ≤ d.char.toNat ∧ d.char.toNat ≤ d.zero + 9 := by
    have hlt := d.value_lt
    rw [toNat_char]
    omega
  unfold Text.digitValue?
  cases hfind : Text.digitZeros.find? fun z => z ≤ d.char.toNat && d.char.toNat ≤ z + 9 with
  | none =>
    have hnone := List.find?_eq_none.1 hfind d.zero d.zero_mem
    simp [hrun] at hnone
  | some z =>
    have hz := List.find?_some hfind
    simp only [Bool.and_eq_true, decide_eq_true_eq] at hz
    rw [zero_eq_of_le_of_le (List.mem_of_find?_eq_some hfind) d.zero_mem hz hrun, toNat_char,
      Option.map_some, Nat.add_sub_cancel_left]

theorem isDigit_char (d : Digit) : Text.isDigit d.char = true := by
  unfold Text.isDigit
  rw [digitValue?_char]
  rfl

/-- Every digit character is that of a digit. -/
theorem exists_char_eq {c : Char} (h : Text.isDigit c = true) : ∃ d : Digit, d.char = c := by
  obtain ⟨v, hv⟩ := Option.isSome_iff_exists.1 h
  obtain ⟨z, hz, rfl⟩ := Option.map_eq_some_iff.1 hv
  have hrun := List.find?_some hz
  simp only [Bool.and_eq_true, decide_eq_true_eq] at hrun
  refine ⟨⟨z, c.toNat - z, List.mem_of_find?_eq_some hz, by omega⟩, ?_⟩
  show Char.ofNat (z + (c.toNat - z)) = c
  rw [Nat.add_sub_cancel' hrun.1, Char.ofNat_toNat]

theorem isDigit_of_mem_text {digits : List Digit} {c : Char} (h : c ∈ text digits) :
    Text.isDigit c = true := by
  obtain ⟨d, -, rfl⟩ := List.mem_map.1 h
  exact isDigit_char d

theorem exists_text_eq {t : Text} (h : ∀ c ∈ t, Text.isDigit c = true) :
    ∃ digits, text digits = t := by
  induction t with
  | nil => exact ⟨[], rfl⟩
  | cons c t ih =>
    obtain ⟨d, rfl⟩ := exists_char_eq (h c List.mem_cons_self)
    obtain ⟨digits, rfl⟩ := ih fun e he => h e (List.mem_cons_of_mem _ he)
    exact ⟨d :: digits, rfl⟩

theorem text_append (a b : List Digit) : text (a ++ b) = text a ++ text b := List.map_append

theorem text_eq_nil_iff {digits : List Digit} : text digits = [] ↔ digits = [] :=
  List.map_eq_nil_iff

/-- Digits in front of others are moved by as many places. -/
theorem number_append (a b : List Digit) :
    number (a ++ b) = number a * 10 ^ b.length + number b := by
  unfold number
  rw [List.map_append, List.reverse_append, Nat.ofDigits_append, List.length_reverse,
    List.length_map]
  ring

/-- Digits are read as the number that they stand for. -/
theorem digitsValue_text (digits : List Digit) :
    Numeral.digitsValue (text digits) = number digits := by
  -- The value is built up from the left, so the induction takes the last digit off.
  induction digits using List.reverseRecOn with
  | nil => rfl
  | append_singleton digits d ih =>
    have hlast : number [d] = d.value := by simp [number]
    rw [number_append, List.length_singleton, pow_one, hlast, ← ih]
    unfold Numeral.digitsValue
    rw [text_append, List.foldl_append]
    show 10 * _ + (Text.digitValue? d.char).getD 0 = _
    rw [digitValue?_char, mul_comm]
    rfl

end Digit

/-! ## 2. The parts of a spelling -/

inductive Sign where
  | absent
  | plus
  | minus
deriving DecidableEq

namespace Sign

def text : Sign → Text
  | .absent => []
  | .plus => ['+']
  | .minus => ['-']

def isNegative : Sign → Bool
  | .minus => true
  | _ => false

theorem eq_plus_or_eq_minus_of_mem_text {s : Sign} {c : Char} (h : c ∈ s.text) :
    c = '+' ∨ c = '-' := by
  cases s with
  | absent => cases h
  | plus => exact Or.inl (List.mem_singleton.1 h)
  | minus => exact Or.inr (List.mem_singleton.1 h)

end Sign

/-- Digits with a point or without one; the point may stand at either end of them. -/
inductive Magnitude where
  | whole (digits : List Digit) (h : digits ≠ []) (fraction : Option (List Digit))
  | fraction (digits : List Digit) (h : digits ≠ [])

namespace Magnitude

def text : Magnitude → Text
  | .whole digits _ none => Digit.text digits
  | .whole digits _ (some behind) => Digit.text digits ++ '.' :: Digit.text behind
  | .fraction digits _ => '.' :: Digit.text digits

def inFront : Magnitude → List Digit
  | .whole digits .. => digits
  | .fraction .. => []

def behind : Magnitude → List Digit
  | .whole _ _ behind => behind.getD []
  | .fraction digits _ => digits

theorem text_ne_nil (m : Magnitude) : m.text ≠ [] := by
  cases m with
  | whole digits h behind =>
    have hne : Digit.text digits ≠ [] := mt Digit.text_eq_nil_iff.1 h
    cases behind with
    | none => exact hne
    | some behind => exact List.append_ne_nil_of_left_ne_nil hne _
  | fraction digits h => exact List.cons_ne_nil _ _

theorem isDigit_or_eq_point_of_mem_text {m : Magnitude} {c : Char} (h : c ∈ m.text) :
    Text.isDigit c = true ∨ c = '.' := by
  cases m with
  | whole digits _ behind =>
    cases behind with
    | none => exact Or.inl (Digit.isDigit_of_mem_text h)
    | some behind =>
      rcases List.mem_append.1 h with h | h
      · exact Or.inl (Digit.isDigit_of_mem_text h)
      · rcases List.mem_cons.1 h with h | h
        · exact Or.inr h
        · exact Or.inl (Digit.isDigit_of_mem_text h)
  | fraction digits _ =>
    rcases List.mem_cons.1 h with h | h
    · exact Or.inr h
    · exact Or.inl (Digit.isDigit_of_mem_text h)

def value (m : Magnitude) : ℚ :=
  Digit.number m.inFront + Digit.number m.behind / 10 ^ m.behind.length

end Magnitude

structure Scale where
  mark : Char
  sign : Sign
  digits : List Digit
  mark_eq : mark = 'e' ∨ mark = 'E'
  digits_ne_nil : digits ≠ []

namespace Scale

def text : Option Scale → Text
  | none => []
  | some s => s.mark :: (s.sign.text ++ Digit.text s.digits)

def exponent : Option Scale → Int
  | none => 0
  | some s => if s.sign.isNegative then -Digit.number s.digits else Digit.number s.digits

end Scale

structure Spelling where
  sign : Sign
  magnitude : Magnitude
  scale : Option Scale

namespace Spelling

def text (s : Spelling) : Text := s.sign.text ++ (s.magnitude.text ++ Scale.text s.scale)

def value (s : Spelling) : ℚ :=
  signed s.sign.isNegative (s.magnitude.value * 10 ^ Scale.exponent s.scale)

def numeral (s : Spelling) : Numeral :=
  .assemble s.sign.isNegative (Digit.text s.magnitude.inFront) (Digit.text s.magnitude.behind)
    (Scale.exponent s.scale)

/-- The numeral of a spelling stands for the same number: the point is moved behind its digits. -/
theorem toRat_numeral (s : Spelling) : s.numeral.toRat = s.value := by
  have hten : (10 : ℚ) ≠ 0 := by norm_num
  unfold numeral Numeral.assemble Numeral.toRat value Magnitude.value
  rw [← Digit.text_append, Digit.digitsValue_text, Digit.number_append]
  congr 1
  unfold Digit.text
  rw [List.length_map]
  push_cast
  rw [zpow_sub₀ hten, zpow_natCast]
  field_simp

def marks : List Char := ['+', '-', '.', 'e', 'E']

theorem mem_marks_of_mem_sign {s : Sign} {c : Char} (h : c ∈ s.text) : c ∈ marks := by
  rcases Sign.eq_plus_or_eq_minus_of_mem_text h with rfl | rfl <;> decide

theorem isDigit_or_mem_marks_of_mem_scale {x : Option Scale} {c : Char} (h : c ∈ Scale.text x) :
    Text.isDigit c = true ∨ c ∈ marks := by
  cases x with
  | none => cases h
  | some s =>
    rcases List.mem_cons.1 h with rfl | h
    · rcases s.mark_eq with hmark | hmark <;> exact Or.inr (by rw [hmark]; decide)
    · rcases List.mem_append.1 h with h | h
      · exact Or.inr (mem_marks_of_mem_sign h)
      · exact Or.inl (Digit.isDigit_of_mem_text h)

/-- A spelling consists of digits and a few marks. -/
theorem isDigit_or_mem_marks {s : Spelling} {c : Char} (h : c ∈ s.text) :
    Text.isDigit c = true ∨ c ∈ marks := by
  rcases List.mem_append.1 h with h | h
  · exact Or.inr (mem_marks_of_mem_sign h)
  · rcases List.mem_append.1 h with h | h
    · rcases Magnitude.isDigit_or_eq_point_of_mem_text h with h | rfl
      · exact Or.inl h
      · exact Or.inr (by decide)
    · exact isDigit_or_mem_marks_of_mem_scale h

end Spelling

/-! ## 3. Reading a spelling -/

namespace Numeral
open Text

/-- A sign is taken off, and without one nothing is. -/
theorem readSign_append (s : Sign) {t : Text} (h : ∀ c ∈ t.head?, c ≠ '+' ∧ c ≠ '-') :
    readSign (s.text ++ t) = (s.isNegative, t) := by
  cases s with
  | plus => rfl
  | minus => rfl
  | absent =>
    cases t with
    | nil => rfl
    | cons c rest =>
      obtain ⟨hplus, hminus⟩ := h c rfl
      show readSign (c :: rest) = (false, c :: rest)
      unfold readSign
      split
      · rename_i hc
        exact absurd (List.cons.inj hc).1 hminus
      · rename_i hc
        exact absurd (List.cons.inj hc).1 hplus
      · rfl

theorem exists_sign (t : Text) :
    ∃ s : Sign, t = s.text ++ (readSign t).2 ∧ (readSign t).1 = s.isNegative := by
  unfold readSign
  split
  · exact ⟨.minus, rfl, rfl⟩
  · exact ⟨.plus, rfl, rfl⟩
  · exact ⟨.absent, rfl, rfl⟩

theorem ne_sign_of_isDigit {c : Char} (h : isDigit c = true) : c ≠ '+' ∧ c ≠ '-' := by
  constructor
  · rintro rfl
    exact absurd h (by decide +kernel)
  · rintro rfl
    exact absurd h (by decide +kernel)

/-! ### The exponent -/

theorem head?_scale (x : Option Scale) :
    ∀ c ∈ (Scale.text x).head?, isDigit c = false ∧ c ≠ '.' ∧ c ≠ '+' ∧ c ≠ '-' := by
  cases x with
  | none => simp [Scale.text]
  | some s =>
    intro c hc
    cases hc
    rcases s.mark_eq with h | h <;> rw [h] <;> decide +kernel

theorem readExponent?_cons (mark : Char) (rest : Text) :
    readExponent? (mark :: rest) =
      if (mark = 'e' || mark = 'E') && !(readSign rest).2.isEmpty && (readSign rest).2.all isDigit
      then some (if (readSign rest).1 then -(digitsValue (readSign rest).2 : Int)
        else digitsValue (readSign rest).2)
      else none := rfl

/-- An exponent that is written is read. -/
theorem readExponent?_text (x : Option Scale) :
    readExponent? (Scale.text x) = some (Scale.exponent x) := by
  cases x with
  | none => rfl
  | some s =>
    have hsign : readSign (s.sign.text ++ Digit.text s.digits) =
        (s.sign.isNegative, Digit.text s.digits) := by
      apply readSign_append
      intro c hc
      exact ne_sign_of_isDigit (Digit.isDigit_of_mem_text (List.mem_of_mem_head? hc))
    have hmark : (s.mark = 'e' || s.mark = 'E') = true := by
      simpa using s.mark_eq
    have hne : (Digit.text s.digits).isEmpty = false := by
      simpa [Digit.text_eq_nil_iff] using s.digits_ne_nil
    have hall : (Digit.text s.digits).all isDigit = true :=
      List.all_eq_true.2 fun c => Digit.isDigit_of_mem_text
    show readExponent? (s.mark :: (s.sign.text ++ Digit.text s.digits)) = _
    rw [readExponent?_cons, hsign]
    simp only [hmark, hne, hall, Digit.digitsValue_text]
    rfl

/-- An exponent that is read was written. -/
theorem exists_scale {t : Text} {e : Int} (h : readExponent? t = some e) :
    ∃ x : Option Scale, Scale.text x = t ∧ Scale.exponent x = e := by
  cases t with
  | nil =>
    cases h
    exact ⟨none, rfl, rfl⟩
  | cons mark rest =>
    obtain ⟨s, hrest, hnegative⟩ := exists_sign rest
    rw [readExponent?_cons] at h
    split at h
    · rename_i hconditions
      simp only [Bool.and_eq_true, Bool.or_eq_true, decide_eq_true_eq, Bool.not_eq_true',
        List.isEmpty_eq_false_iff, List.all_eq_true] at hconditions
      obtain ⟨⟨hmark, hne⟩, hall⟩ := hconditions
      -- What passed the conditions is a mark, a sign and digits.
      obtain ⟨digits, hdigits⟩ := Digit.exists_text_eq hall
      rw [← hdigits] at hne hrest
      refine ⟨some ⟨mark, s, digits, hmark, mt Digit.text_eq_nil_iff.2 hne⟩, ?_, ?_⟩
      · rw [hrest]
        rfl
      · rw [hnegative, ← hdigits, Digit.digitsValue_text] at h
        exact Option.some.inj h
    · cases h

/-! ### The digits -/

variable {negative : Bool} {whole fraction rest : Text}

theorem readUnsigned?_whole (hwhole : ∀ c ∈ whole, isDigit c = true)
    (hrest : ∀ c ∈ rest.head?, isDigit c = false) (hpoint : ∀ c ∈ rest.head?, c ≠ '.') :
    readUnsigned? negative (whole ++ rest) =
      if whole = [] then none else (readExponent? rest).map (assemble negative whole []) := by
  unfold readUnsigned?
  rw [takeWhile_append_of_head hwhole hrest, dropWhile_append_of_head hwhole hrest]
  simp only [List.isEmpty_iff]
  split
  · exact absurd rfl (hpoint '.' rfl)
  · rfl

theorem readUnsigned?_point (hwhole : ∀ c ∈ whole, isDigit c = true)
    (hfraction : ∀ c ∈ fraction, isDigit c = true)
    (hrest : ∀ c ∈ rest.head?, isDigit c = false) :
    readUnsigned? negative (whole ++ '.' :: (fraction ++ rest)) =
      if whole = [] ∧ fraction = [] then none
      else (readExponent? rest).map (assemble negative whole fraction) := by
  have hpoint : ∀ c ∈ ('.' :: (fraction ++ rest)).head?, isDigit c = false := by
    intro c hc
    cases hc
    decide +kernel
  unfold readUnsigned?
  rw [takeWhile_append_of_head hwhole hpoint, dropWhile_append_of_head hwhole hpoint]
  simp only [takeWhile_append_of_head hfraction hrest, dropWhile_append_of_head hfraction hrest,
    Bool.and_eq_true, List.isEmpty_iff]

/-- A magnitude that is written is read, together with the exponent behind it. -/
theorem readUnsigned?_text (m : Magnitude) (x : Option Scale) :
    readUnsigned? negative (m.text ++ Scale.text x) =
      some (assemble negative (Digit.text m.inFront) (Digit.text m.behind) (Scale.exponent x)) := by
  -- An exponent starts with a mark, where the digits before it end.
  have hscale := head?_scale x
  cases m with
  | whole digits h behind =>
    have hne : Digit.text digits ≠ [] := mt Digit.text_eq_nil_iff.1 h
    cases behind with
    | none =>
      show readUnsigned? negative (Digit.text digits ++ Scale.text x) = _
      rw [readUnsigned?_whole (fun c => Digit.isDigit_of_mem_text) (fun c hc => (hscale c hc).1)
        (fun c hc => (hscale c hc).2.1), if_neg hne, readExponent?_text]
      rfl
    | some behind =>
      show readUnsigned? negative
        (Digit.text digits ++ '.' :: Digit.text behind ++ Scale.text x) = _
      rw [List.append_assoc, List.cons_append,
        readUnsigned?_point (fun c => Digit.isDigit_of_mem_text)
          (fun c => Digit.isDigit_of_mem_text) (fun c hc => (hscale c hc).1),
        if_neg (fun hnil => hne hnil.1), readExponent?_text]
      rfl
  | fraction digits h =>
    have hne : Digit.text digits ≠ [] := mt Digit.text_eq_nil_iff.1 h
    show readUnsigned? negative ([] ++ '.' :: (Digit.text digits ++ Scale.text x)) = _
    rw [readUnsigned?_point (by simp) (fun c => Digit.isDigit_of_mem_text)
        (fun c hc => (hscale c hc).1),
      if_neg (fun hnil => hne hnil.2), readExponent?_text]
    rfl

/-- What is read as a number is a magnitude with an exponent behind it. -/
theorem exists_magnitude {t : Text} {n : Numeral} (h : readUnsigned? negative t = some n) :
    ∃ (m : Magnitude) (x : Option Scale), t = m.text ++ Scale.text x ∧
      n = assemble negative (Digit.text m.inFront) (Digit.text m.behind) (Scale.exponent x) := by
  obtain ⟨whole, rest, rfl, hwhole, hrest⟩ := exists_run isDigit t
  obtain ⟨digits, rfl⟩ := Digit.exists_text_eq hwhole
  -- After the first run of digits there is a point or there is none.
  by_cases hpoint : ∀ c ∈ rest.head?, c ≠ '.'
  · rw [readUnsigned?_whole hwhole hrest hpoint] at h
    split at h
    · cases h
    · rename_i hne
      obtain ⟨e, he, rfl⟩ := Option.map_eq_some_iff.1 h
      obtain ⟨x, rfl, rfl⟩ := exists_scale he
      exact ⟨.whole digits (mt Digit.text_eq_nil_iff.2 hne) none, x, rfl, rfl⟩
  · obtain ⟨behind, rfl⟩ : ∃ behind, rest = '.' :: behind := by
      cases rest with
      | nil => simp at hpoint
      | cons c behind =>
        refine ⟨behind, ?_⟩
        simpa using hpoint
    obtain ⟨fraction, after, rfl, hfraction, hafter⟩ := exists_run isDigit behind
    obtain ⟨digits', rfl⟩ := Digit.exists_text_eq hfraction
    rw [readUnsigned?_point hwhole hfraction hafter] at h
    split at h
    · cases h
    · rename_i hne
      obtain ⟨e, he, rfl⟩ := Option.map_eq_some_iff.1 h
      obtain ⟨x, rfl, rfl⟩ := exists_scale he
      rw [Digit.text_eq_nil_iff, Digit.text_eq_nil_iff] at hne
      -- With a point, digits may be missing on one side but not on both.
      by_cases hdigits : digits = []
      · subst hdigits
        exact ⟨.fraction digits' (fun hnil => hne ⟨rfl, hnil⟩), x, rfl, rfl⟩
      · refine ⟨.whole digits hdigits (some digits'), x, ?_, rfl⟩
        simp [Magnitude.text]

theorem ofText?_eq (t : Text) : ofText? t = readUnsigned? (readSign t).1 (readSign t).2 := rfl

/-- A spelling is read as its numeral. -/
theorem ofText?_text (s : Spelling) : ofText? s.text = some s.numeral := by
  have hsign : readSign s.text = (s.sign.isNegative, s.magnitude.text ++ Scale.text s.scale) := by
    apply readSign_append
    intro c hc
    rw [List.head?_append_of_ne_nil _ s.magnitude.text_ne_nil] at hc
    rcases Magnitude.isDigit_or_eq_point_of_mem_text (List.mem_of_mem_head? hc) with h | rfl
    · exact ne_sign_of_isDigit h
    · decide
  rw [ofText?_eq, hsign, readUnsigned?_text]
  rfl

/-- The texts that are read as numerals are those of spellings. -/
theorem ofText?_eq_some_iff {t : Text} {n : Numeral} :
    ofText? t = some n ↔ ∃ s : Spelling, s.text = t ∧ s.numeral = n := by
  constructor
  · intro h
    rw [ofText?_eq] at h
    obtain ⟨sign, ht, hnegative⟩ := exists_sign t
    obtain ⟨m, x, hrest, rfl⟩ := exists_magnitude h
    refine ⟨⟨sign, m, x⟩, ?_, ?_⟩
    · rw [ht, hrest]
      rfl
    · rw [hnegative]
      rfl
  · rintro ⟨s, rfl, rfl⟩
    exact ofText?_text s

end Numeral
end Cascade
