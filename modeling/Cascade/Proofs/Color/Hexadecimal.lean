import Cascade.Proofs.Color.Channels
import Cascade.Proofs.Text.Trimming
import Cascade.Text.Case
import Mathlib.Data.List.Forall2

/-!
# Colors in hexadecimal notation

Reading and writing are inverse to each other, a full opacity apart, which is left out.  A color
made from integers is written by these, clamped to octets.
-/

namespace Cascade

/-! ## 1. Digits -/

/-- A hexadecimal digit by what it counts, a letter being of either case. -/
structure HexDigit where
  value : Nat
  capital : Bool
  value_lt : value < 16

namespace HexDigit
open Text

def small : List Char := "0123456789abcdef".toList

def capitals : List Char := "0123456789ABCDEF".toList

def char (d : HexDigit) : Char := (if d.capital then capitals else small).getD d.value '0'

def text (digits : List HexDigit) : Text := digits.map char

/-- What holds of the letters of both alphabets holds of every digit. -/
theorem forall_of_alphabets {p : HexDigit → Prop}
    (h : ∀ (v : Fin 16) (capital : Bool), p ⟨v, capital, v.isLt⟩) (d : HexDigit) : p d :=
  h ⟨d.value, d.value_lt⟩ d.capital

theorem hexValue?_char : ∀ d : HexDigit, hexValue? d.char = some d.value := by
  apply forall_of_alphabets
  decide

theorem isBlank_char : ∀ d : HexDigit, isBlank d.char = false := by
  apply forall_of_alphabets
  decide

theorem char_eq_ofNat : ∀ d : HexDigit, d.char = Char.ofNat
    (if d.value < 10 then 48 + d.value else if d.capital then 55 + d.value else 87 + d.value) := by
  apply forall_of_alphabets
  decide

/-- Whatever has a value is a digit of one of the two alphabets. -/
theorem exists_char_eq {c : Char} {n : Nat} (h : hexValue? c = some n) :
    ∃ d : HexDigit, d.char = c ∧ d.value = n := by
  have hlt := hexValue?_lt h
  have hdigit (capital : Bool)
      (hcode : c.toNat = if n < 10 then 48 + n else if capital then 55 + n else 87 + n) :
      ∃ d : HexDigit, d.char = c ∧ d.value = n := by
    refine ⟨⟨n, capital, hlt⟩, ?_, rfl⟩
    rw [char_eq_ofNat, ← Char.ofNat_toNat c, hcode]
  -- The three ranges of code points are the decimal digits, the small letters and the capitals.
  simp only [hexValue?] at h
  split at h
  · have := Option.some.inj h
    exact hdigit false (by rw [if_pos (by omega)]; omega)
  · split at h
    · have := Option.some.inj h
      exact hdigit false (by rw [if_neg (by omega), if_neg (by decide)]; omega)
    · split at h
      · have := Option.some.inj h
        exact hdigit true (by rw [if_neg (by omega), if_pos rfl]; omega)
      · cases h

theorem hexDigit_mem_small {n : Nat} (h : n < 16) : hexDigit n ∈ small := by
  have hsmall : ∀ n : Fin 16, hexDigit n ∈ small := by decide
  exact hsmall ⟨n, h⟩

theorem char_small {n : Nat} (h : n < 16) : char ⟨n, false, h⟩ = hexDigit n := by
  have hsmall : ∀ n : Fin 16, char ⟨n, false, n.isLt⟩ = hexDigit n := by decide
  exact hsmall ⟨n, h⟩

theorem exists_text_eq {t : Text} (h : ∀ c ∈ t, c ∈ small ∨ c ∈ capitals) :
    ∃ digits : List HexDigit, text digits = t := by
  have halphabets : (small ++ capitals).all (fun c => (hexValue? c).isSome) = true := by decide
  induction t with
  | nil => exact ⟨[], rfl⟩
  | cons c t ih =>
    have hc := List.all_eq_true.1 halphabets c (List.mem_append.2 (h c List.mem_cons_self))
    obtain ⟨n, hn⟩ := Option.isSome_iff_exists.1 hc
    obtain ⟨d, rfl, -⟩ := exists_char_eq hn
    obtain ⟨digits, rfl⟩ := ih fun e he => h e (List.mem_cons_of_mem _ he)
    exact ⟨d :: digits, rfl⟩

/-- No digit is a sigma or a dotted capital, so its neighbours have no part in its lower case. -/
theorem lowerBetween_char (d : HexDigit) (before after : Text) :
    lowerBetween before d.char after = [hexDigit d.value] := by
  have hchar : ∀ d : HexDigit, d.char ≠ '\u03A3' ∧ d.char ≠ '\u0130' ∧
      lowerChar d.char = hexDigit d.value := by
    apply forall_of_alphabets
    decide +kernel
  obtain ⟨hsigma, hdotted, hlower⟩ := hchar d
  unfold lowerBetween
  rw [if_neg hsigma, if_neg hdotted, hlower]

theorem lower_text (digits : List HexDigit) :
    lower (text digits) = digits.map fun d => hexDigit d.value := by
  have hafter (before : Text) :
      lowerAfter before (text digits) = digits.map fun d => hexDigit d.value := by
    induction digits generalizing before with
    | nil => rfl
    | cons d digits ih =>
      show lowerBetween before d.char (text digits) ++
        lowerAfter (d.char :: before) (text digits) = _
      rw [lowerBetween_char, ih]
      rfl
  exact hafter []

end HexDigit

/-! ## 2. Octets -/

/-- Two hexadecimal digits, the higher one first. -/
structure HexOctet where
  high : HexDigit
  low : HexDigit

namespace HexOctet
open Text

def digits (o : HexOctet) : List HexDigit := [o.high, o.low]

def value (o : HexOctet) : Nat := 16 * o.high.value + o.low.value

def text (octets : List HexOctet) : Text := HexDigit.text (octets.flatMap digits)

theorem value_le (o : HexOctet) : o.value ≤ 255 := by
  have hhigh := o.high.value_lt
  have hlow := o.low.value_lt
  unfold value
  omega

theorem text_cons (o : HexOctet) (octets : List HexOctet) :
    text (o :: octets) = o.high.char :: o.low.char :: text octets := rfl

theorem isBlank_of_mem_text {octets : List HexOctet} {c : Char} (h : c ∈ text octets) :
    isBlank c = false := by
  obtain ⟨d, -, rfl⟩ := List.mem_map.1 h
  exact d.isBlank_char

theorem lower_text (octets : List HexOctet) :
    lower (text octets) = octets.flatMap fun o => hexDigits 2 o.value := by
  unfold text
  rw [HexDigit.lower_text, List.map_flatMap]
  congr 1
  funext o
  have hhigh := o.high.value_lt
  have hlow := o.low.value_lt
  show [hexDigit o.high.value, hexDigit o.low.value] =
    [hexDigit (o.value / 16 % 16), hexDigit (o.value % 16)]
  unfold value
  rw [Nat.mul_add_div (by decide), Nat.div_eq_of_lt hlow, Nat.add_zero, Nat.mod_eq_of_lt hhigh,
    Nat.mul_add_mod, Nat.mod_eq_of_lt hlow]

def written (n : Nat) : Text :=
  [HexDigit.small.getD (n / 16) '0', HexDigit.small.getD (n % 16) '0']

theorem hexDigits_eq_written {n : Nat} (h : n ≤ 255) : hexDigits 2 n = written n := by
  have hhigh : n / 16 < 16 := by omega
  have hlow : n % 16 < 16 := by omega
  show [hexDigit (n / 16 % 16), hexDigit (n % 16)] = written n
  rw [Nat.mod_eq_of_lt hhigh, ← HexDigit.char_small hhigh, ← HexDigit.char_small hlow]
  rfl

/-- The octets of numbers up to 255 are written by their small digits. -/
theorem exists_text_eq {ns : List Nat} (h : ∀ n ∈ ns, n ≤ 255) :
    ∃ octets : List HexOctet, text octets = ns.flatMap (hexDigits 2) ∧ octets.map value = ns := by
  induction ns with
  | nil => exact ⟨[], rfl, rfl⟩
  | cons n ns ih =>
    have hle : n ≤ 255 := h n List.mem_cons_self
    obtain ⟨octets, htext, hvalue⟩ := ih fun m hm => h m (List.mem_cons_of_mem n hm)
    have hhigh : n / 16 % 16 < 16 := Nat.mod_lt _ (by decide)
    have hlow : n % 16 < 16 := Nat.mod_lt _ (by decide)
    refine ⟨⟨⟨n / 16 % 16, false, hhigh⟩, ⟨n % 16, false, hlow⟩⟩ :: octets, ?_, ?_⟩
    · rw [text_cons, HexDigit.char_small, HexDigit.char_small, htext]
      rfl
    · rw [List.map_cons, hvalue]
      congr 1
      show 16 * (n / 16 % 16) + n % 16 = n
      omega

theorem exists_digits_eq {digits : List HexDigit} {n : Nat} (h : digits.length = 2 * n) :
    ∃ octets : List HexOctet, octets.length = n ∧ octets.flatMap HexOctet.digits = digits := by
  induction n generalizing digits with
  | zero => exact ⟨[], rfl, (List.eq_nil_of_length_eq_zero h).symm⟩
  | succ n ih =>
    obtain ⟨high, low, rest, rfl⟩ : ∃ high low rest, digits = high :: low :: rest := by
      match digits, h with
      | high :: low :: rest, _ => exact ⟨high, low, rest, rfl⟩
    have hrest : rest.length = 2 * n := by
      simp only [List.length_cons] at h
      omega
    obtain ⟨octets, hlength, rfl⟩ := ih hrest
    exact ⟨⟨high, low⟩ :: octets, by rw [List.length_cons, hlength], rfl⟩

theorem exists_text_eq_of_length {t : Text} (hlength : t.length = 6 ∨ t.length = 8)
    (h : ∀ c ∈ t, c ∈ HexDigit.small ∨ c ∈ HexDigit.capitals) :
    ∃ octets : List HexOctet, (octets.length = 3 ∨ octets.length = 4) ∧ text octets = t := by
  obtain ⟨digits, rfl⟩ := HexDigit.exists_text_eq h
  have hcount : digits.length = (HexDigit.text digits).length := (List.length_map _).symm
  rcases hlength with hlength | hlength
  · obtain ⟨octets, hoctets, rfl⟩ := exists_digits_eq (n := 3) (hcount.trans hlength)
    exact ⟨octets, Or.inl hoctets, rfl⟩
  · obtain ⟨octets, hoctets, rfl⟩ := exists_digits_eq (n := 4) (hcount.trans hlength)
    exact ⟨octets, Or.inr hoctets, rfl⟩

end HexOctet

/-! ### Reading them -/

namespace Rgba
open Text

/-- Octets are read back from their digits, whatever the case. -/
theorem octets?_text (octets : List HexOctet) :
    octets? (HexOctet.text octets) = some (octets.map HexOctet.value) := by
  induction octets with
  | nil => rfl
  | cons o octets ih =>
    rw [HexOctet.text_cons, octets?, HexDigit.hexValue?_char, HexDigit.hexValue?_char, ih]
    rfl

/-- What is read as octets is the text of octets. -/
theorem exists_of_octets? {t : Text} {ns : List Nat} (h : octets? t = some ns) :
    ∃ octets : List HexOctet, HexOctet.text octets = t ∧ octets.map HexOctet.value = ns := by
  fun_induction octets? t generalizing ns with
  | case1 =>
    cases h
    exact ⟨[], rfl, rfl⟩
  | case2 => cases h
  -- Both digits of a pair have a value, and so has everything behind the pair.
  | case3 a b rest x y ns hns hy hx ih =>
    cases h
    obtain ⟨high, rfl, rfl⟩ := HexDigit.exists_char_eq hx
    obtain ⟨low, rfl, rfl⟩ := HexDigit.exists_char_eq hy
    obtain ⟨octets, rfl, rfl⟩ := ih hns
    exact ⟨⟨high, low⟩ :: octets, rfl, rfl⟩
  | case4 => cases h

theorem le_of_mem_octets? {t : Text} {ns : List Nat} (h : octets? t = some ns) :
    ∀ n ∈ ns, n ≤ 255 := by
  obtain ⟨octets, -, rfl⟩ := exists_of_octets? h
  intro n hn
  obtain ⟨o, -, rfl⟩ := List.mem_map.1 hn
  exact o.value_le

theorem octets?_hexDigits {ns : List Nat} (h : ∀ n ∈ ns, n ≤ 255) :
    octets? (ns.flatMap (hexDigits 2)) = some ns := by
  obtain ⟨octets, htext, hvalue⟩ := HexOctet.exists_text_eq h
  rw [← htext, octets?_text, hvalue]

def ofOctetList? : List Nat → Option Rgba
  | [r, g, b] => some (ofOctets r g b 255)
  | [r, g, b, a] => some (ofOctets r g b a)
  | _ => none

theorem ofHex?_eq_bind (t : Text) :
    ofHex? t = (octets? (dropNumberSign (trim t))).bind ofOctetList? := by
  unfold ofHex?
  cases octets? (dropNumberSign (trim t)) with
  | none => rfl
  | some ns =>
    rw [Option.bind_some]
    unfold ofOctetList?
    split <;> simp_all

theorem dropNumberSign_trim {octets : List HexOctet} {blank : Text}
    (h : isBlankText blank = true) :
    dropNumberSign (trim ('#' :: (HexOctet.text octets ++ blank))) = HexOctet.text octets := by
  have hblank : ∀ c ∈ '#' :: HexOctet.text octets, isBlank c = false := by
    intro c hc
    rcases List.mem_cons.1 hc with rfl | hc
    · decide
    · exact HexOctet.isBlank_of_mem_text hc
  rw [← List.cons_append, trim_append_right h, trim_of_forall_not_isBlank hblank]
  rfl

theorem ofHex?_text (octets : List HexOctet) {blank : Text} (h : isBlankText blank = true) :
    ofHex? ('#' :: (HexOctet.text octets ++ blank)) =
      ofOctetList? (octets.map HexOctet.value) := by
  rw [ofHex?_eq_bind, dropNumberSign_trim h, octets?_text, Option.bind_some]

theorem ofHex?_hexDigits {ns : List Nat} (h : ∀ n ∈ ns, n ≤ 255) :
    ofHex? ('#' :: ns.flatMap (hexDigits 2)) = ofOctetList? ns := by
  obtain ⟨octets, htext, rfl⟩ := HexOctet.exists_text_eq h
  rw [← htext, ← ofHex?_text octets (rfl : isBlankText [] = true), List.append_nil]

/-! ## 3. The text of a color -/

section
variable {α β ε : Type} {f : α → Except ε β}

/-- A list is mapped when each of its items is. -/
theorem mapM_eq_ok_iff {xs : List α} {ys : List β} :
    xs.mapM f = .ok ys ↔ List.Forall₂ (fun x y => f x = .ok y) xs ys := by
  induction xs generalizing ys with
  | nil =>
    rw [List.mapM_nil, List.forall₂_nil_left_iff]
    exact ⟨fun h => (Except.ok.inj h).symm, fun h => congrArg Except.ok h.symm⟩
  | cons x xs ih =>
    rw [List.mapM_cons, List.forall₂_cons_left_iff]
    simp only [← ih]
    cases f x with
    | error e => simp [bind, Except.bind]
    | ok y =>
      cases xs.mapM f with
      | error e => simp [bind, Except.bind]
      | ok rest => simp [bind, Except.bind, pure, Except.pure, eq_comm]

theorem exists_of_mapM_eq_error {xs : List α} {e : ε} (h : xs.mapM f = .error e) :
    ∃ x ∈ xs, f x = .error e := by
  induction xs with
  | nil => cases h
  | cons x xs ih =>
    rw [List.mapM_cons] at h
    cases hx : f x with
    | error e' =>
      rw [hx] at h
      cases h
      exact ⟨x, List.mem_cons_self, hx⟩
    | ok y =>
      rw [hx] at h
      -- The head is fine, so the failure is one of the rest.
      cases hxs : xs.mapM f with
      | error e' =>
        rw [hxs] at h
        cases h
        obtain ⟨x', hmem, herror⟩ := ih hxs
        exact ⟨x', List.mem_cons_of_mem x hmem, herror⟩
      | ok ys =>
        rw [hxs] at h
        cases h

end

theorem shownChannels_eq (c : Rgba) :
    c.shownChannels = [c.red, c.green, c.blue] ++ if c.opacity = .one then [] else [c.opacity] := by
  unfold shownChannels
  by_cases hone : c.opacity = .one
  · rw [if_pos hone, if_pos (Binary64.same_one_iff.2 hone)]
    rfl
  · rw [if_neg hone, if_neg (mt Binary64.same_one_iff.1 hone)]
    rfl

/-- The text of a color shows the octet of each channel that is shown. -/
theorem hex_eq_ok_iff {c : Rgba} {t : Text} :
    c.hex = .ok t ↔ ∃ octets, List.Forall₂ (fun x n => octet x = .ok n) c.shownChannels octets ∧
      t = '#' :: octets.flatMap (hexDigits 2) := by
  simp only [← mapM_eq_ok_iff]
  unfold hex
  cases c.shownChannels.mapM octet with
  | error e => simp [bind, Except.bind]
  | ok octets => simp [bind, Except.bind, pure, Except.pure, eq_comm]

theorem exists_octet_of_hex {c : Rgba} {t : Text} (h : c.hex = .ok t) {x : Binary64}
    (hx : x ∈ c.shownChannels) : ∃ n, octet x = .ok n := by
  obtain ⟨octets, hoctets, -⟩ := hex_eq_ok_iff.1 h
  have hall : List.Forall₂ (fun x n => (∃ n, octet x = .ok n) ∧ octet x = .ok n) _ octets :=
    hoctets.imp fun x n hn => ⟨⟨n, hn⟩, hn⟩
  exact ((List.forall₂_and_left _ octets).1 hall).1 x hx

theorem exists_of_hex_eq_error {c : Rgba} {e : ChannelError} (h : c.hex = .error e) :
    ∃ x ∈ c.shownChannels, octet x = .error e := by
  unfold hex at h
  cases hoctets : c.shownChannels.mapM octet with
  | error e' =>
    rw [hoctets] at h
    cases h
    exact exists_of_mapM_eq_error hoctets
  | ok octets =>
    rw [hoctets] at h
    cases h

/-! ## 4. Colors from integers -/

theorem ofInts_eq_ok_iff {r g b a : Int} {c : Rgba} :
    ofInts r g b a = .ok c ↔ channelOfInt r = .ok c.red ∧ channelOfInt g = .ok c.green ∧
      channelOfInt b = .ok c.blue ∧ channelOfInt a = .ok c.opacity := by
  unfold ofInts
  obtain ⟨red, green, blue, opacity⟩ := c
  cases channelOfInt r <;> cases channelOfInt g <;> cases channelOfInt b <;>
    cases channelOfInt a <;> simp [bind, Except.bind, pure, Except.pure]

/-- The channels that are shown are those of the three colors, and the opacity unless it is full. -/
theorem forall₂_shownChannels {r g b a : Int} {c : Rgba} (h : ofInts r g b a = .ok c) :
    List.Forall₂ (fun n x => channelOfInt n = .ok x) ([r, g, b] ++ if a = 255 then [] else [a])
      c.shownChannels := by
  obtain ⟨hr, hg, hb, ha⟩ := ofInts_eq_ok_iff.1 h
  have hfull := channelOfInt_eq_one_iff ha
  rw [shownChannels_eq]
  by_cases hopaque : a = 255
  · rw [if_pos hopaque, if_pos (hfull.2 hopaque)]
    exact .cons hr (.cons hg (.cons hb .nil))
  · rw [if_neg hopaque, if_neg (mt hfull.1 hopaque)]
    exact .cons hr (.cons hg (.cons hb (.cons ha .nil)))

/-- From integers to channels and on to octets, item by item. -/
theorem eq_map_clamped {ints : List Int} {channels : List Binary64} {octets : List Nat}
    (hchannels : List.Forall₂ (fun n x => channelOfInt n = .ok x) ints channels)
    (hoctets : List.Forall₂ (fun x n => octet x = .ok n) channels octets) :
    octets = ints.map clamped := by
  induction hchannels generalizing octets with
  | nil =>
    cases hoctets
    rfl
  | cons hchannel _ ih =>
    cases hoctets with
    | cons hoctet hrest => rw [octet_channelOfInt hchannel hoctet, ih hrest, List.map_cons]

theorem clamped_le (n : Int) : clamped n ≤ 255 := by
  unfold clamped
  omega

/-- **Integers are written as they are, clamped to octets.**  If a color is made from integers and
has a text, then the text shows each integer clamped to 0 to 255, and the opacity unless it is 255.
The channel of an integer is the double nearest to its quotient by 255, with its sign, and there is
one unless the quotient is too large for a double. -/
theorem hex_ofInts_eq_clamped :
    (∀ (r g b a : Int) (c : Rgba) (t : Text), ofInts r g b a = .ok c → c.hex = .ok t →
      t = '#' ::
        ([r, g, b] ++ if a = 255 then [] else [a]).flatMap fun n => HexOctet.written (clamped n)) ∧
    (∀ (n : Int) (x : Binary64), channelOfInt n = .ok x ↔ IsChannel n (n < 0) x) ∧
    ∀ n : Int, (∃ x, channelOfInt n = .ok x) ↔ |(n : ℚ) / 255| < Binary64.overflow := by
  refine ⟨?_, fun n x => channelOfInt_eq_ok_iff_isChannel, exists_channelOfInt_iff⟩
  intro r g b a c t hc ht
  obtain ⟨octets, hoctets, rfl⟩ := hex_eq_ok_iff.1 ht
  have hwritten : (fun n => hexDigits 2 (clamped n)) = fun n => HexOctet.written (clamped n) :=
    funext fun n => HexOctet.hexDigits_eq_written (clamped_le n)
  rw [eq_map_clamped (forall₂_shownChannels hc) hoctets, List.flatMap_map, hwritten]

/-- Far above the octets, right below, among and right above them. -/
theorem hex_ofInts_beyond_octets :
    ∃ c t, ofInts (10 ^ 200) (-1) 128 256 = .ok c ∧ c.hex = .ok t ∧ t = "#ff0080ff".toList := by
  obtain ⟨c, t, hc, ht⟩ :
      ∃ c t, ofInts (10 ^ 200) (-1) 128 256 = .ok c ∧ c.hex = .ok t := by
    have hok : (ofInts (10 ^ 200) (-1) 128 256 >>= hex).isOk = true := by decide +kernel
    cases hc : ofInts (10 ^ 200) (-1) 128 256 with
    | error e =>
      rw [hc] at hok
      cases hok
    | ok c =>
      rw [hc] at hok
      cases ht : c.hex with
      | error e =>
        rw [show (Except.ok c >>= hex) = c.hex from rfl, ht] at hok
        cases hok
      | ok t => exact ⟨c, t, rfl, ht⟩
  refine ⟨c, t, hc, ht, ?_⟩
  rw [hex_ofInts_eq_clamped.1 _ _ _ _ c t hc ht]
  decide

/-! ## 5. There and back -/

section
variable {r g b a : Nat} (hr : r ≤ 255) (hg : g ≤ 255) (hb : b ≤ 255) (ha : a ≤ 255)
include hr hg hb ha

theorem ofInts_natCast : ofInts r g b a = .ok (ofOctets r g b a) := by
  rw [ofInts_eq_ok_iff]
  unfold ofOctets
  dsimp only
  exact ⟨channelOfInt_natCast hr, channelOfInt_natCast hg, channelOfInt_natCast hb,
    channelOfInt_natCast ha⟩

theorem le_of_mem_shown {n : Nat} (h : n ∈ [r, g, b] ++ if a = 255 then [] else [a]) :
    n ≤ 255 := by
  rcases List.mem_append.1 h with h | h
  · simp only [List.mem_cons, List.not_mem_nil, or_false] at h
    omega
  · split at h
    · cases h
    · exact List.mem_singleton.1 h ▸ ha

/-- A color of octets is written by their digits. -/
theorem hex_ofOctets :
    (ofOctets r g b a).hex =
      .ok ('#' :: ([r, g, b] ++ if a = 255 then [] else [a]).flatMap (hexDigits 2)) := by
  have hshown : (ofOctets r g b a).shownChannels =
      ([r, g, b] ++ if a = 255 then [] else [a]).map channelOfOctet := by
    rw [shownChannels_eq]
    unfold ofOctets
    simp only [channelOfOctet_eq_one_iff ha, List.map_append, apply_ite (List.map channelOfOctet),
      List.map_cons, List.map_nil]
  refine hex_eq_ok_iff.2 ⟨_, ?_, rfl⟩
  rw [hshown, List.forall₂_map_left_iff, List.forall₂_same]
  intro n hn
  exact octet_channelOfOctet (le_of_mem_shown hr hg hb ha hn)

/-- What is written of a color of octets is read as that color. -/
theorem ofHex?_shown :
    ofHex? ('#' :: ([r, g, b] ++ if a = 255 then [] else [a]).flatMap (hexDigits 2)) =
      some (ofOctets r g b a) := by
  rw [ofHex?_hexDigits fun n hn => le_of_mem_shown hr hg hb ha hn]
  by_cases hopaque : a = 255
  · rw [if_pos hopaque, hopaque]
    rfl
  · rw [if_neg hopaque]
    rfl

end

/-- Digits without the last two of eight, if these say that the opacity is full. -/
def withoutFullOpacity (t : Text) : Text :=
  if t.length = 8 ∧ ['f', 'f'] <:+ t then t.take 6 else t

/-- Two digits tell which octet they are, so only 255 is written by two times `f`. -/
theorem hexDigits_eq_full_iff {n : Nat} (h : n ≤ 255) : hexDigits 2 n = ['f', 'f'] ↔ n = 255 := by
  have hread (m : Nat) (hm : m ≤ 255) : octets? (hexDigits 2 m) = some [m] := by
    have hsingle := octets?_hexDigits (by simpa using hm : ∀ k ∈ [m], k ≤ 255)
    rwa [List.flatMap_singleton] at hsingle
  constructor
  · intro hfull
    have hoctets := hread n h
    rw [hfull] at hoctets
    have hvalue : octets? ['f', 'f'] = some [255] := by decide
    simpa using (hvalue.symm.trans hoctets).symm
  · rintro rfl
    decide

theorem withoutFullOpacity_hexDigits (r g b : Nat) {a : Nat} (ha : a ≤ 255) :
    withoutFullOpacity ([r, g, b, a].flatMap (hexDigits 2)) =
      ([r, g, b] ++ if a = 255 then [] else [a]).flatMap (hexDigits 2) := by
  have hsuffix : ['f', 'f'] <:+ [r, g, b, a].flatMap (hexDigits 2) ↔ a = 255 := by
    rw [← hexDigits_eq_full_iff ha, List.suffix_iff_eq_drop, eq_comm]
    rfl
  unfold withoutFullOpacity
  by_cases hopaque : a = 255
  · rw [if_pos ⟨rfl, hsuffix.2 hopaque⟩, if_pos hopaque]
    rfl
  · rw [if_neg fun h => hopaque (hsuffix.1 h.2), if_neg hopaque]
    rfl

/-- **Hexadecimal notation goes there and back.**  Six or eight hexadecimal digits of any case are
read as a color, and it is written again by the same digits, small and without a full opacity.  The
color of four bytes has a text, from which the same color is read. -/
theorem ofHex?_hex_roundTrip :
    (∀ t : Text, (t.length = 6 ∨ t.length = 8) →
      (∀ c ∈ t, c ∈ HexDigit.small ∨ c ∈ HexDigit.capitals) →
      ∃ c, ofHex? ('#' :: t) = some c ∧ c.hex = .ok ('#' :: withoutFullOpacity (lower t))) ∧
    ∀ r g b a : UInt8, ∃ c t, ofInts r.toNat g.toNat b.toNat a.toNat = .ok c ∧
      c.hex = .ok t ∧ ofHex? t = some c := by
  constructor
  · intro t hlength hdigits
    obtain ⟨octets, hcount, rfl⟩ := HexOctet.exists_text_eq_of_length hlength hdigits
    have hlower := HexOctet.lower_text octets
    have hread := ofHex?_text octets (rfl : isBlankText [] = true)
    rw [List.append_nil] at hread
    rw [hread, hlower]
    -- Three octets have a full opacity that is left out; of four the last one may be full.
    rcases hcount with hcount | hcount
    · obtain ⟨r, g, b, rfl⟩ := List.length_eq_three.1 hcount
      refine ⟨_, rfl, ?_⟩
      rw [hex_ofOctets r.value_le g.value_le b.value_le (le_refl 255)]
      rfl
    · obtain ⟨r, g, b, a, rfl⟩ := List.length_eq_four.1 hcount
      refine ⟨_, rfl, ?_⟩
      rw [hex_ofOctets r.value_le g.value_le b.value_le a.value_le,
        ← withoutFullOpacity_hexDigits _ _ _ a.value_le]
      rfl
  · intro r g b a
    have hr : r.toNat ≤ 255 := Nat.le_of_lt_succ r.toNat_lt
    have hg : g.toNat ≤ 255 := Nat.le_of_lt_succ g.toNat_lt
    have hb : b.toNat ≤ 255 := Nat.le_of_lt_succ b.toNat_lt
    have ha : a.toNat ≤ 255 := Nat.le_of_lt_succ a.toNat_lt
    exact ⟨_, _, ofInts_natCast hr hg hb ha, hex_ofOctets hr hg hb ha, ofHex?_shown hr hg hb ha⟩

/-- Digits of both cases with a full opacity. -/
theorem ofHex?_hex_mixed_case :
    ∃ c, ofHex? "#Ff0aB1fF".toList = some c ∧ c.hex = .ok "#ff0ab1".toList := by
  have halphabets : "Ff0aB1fF".toList.all
      (fun c => c ∈ HexDigit.small ∨ c ∈ HexDigit.capitals) = true := by decide
  obtain ⟨c, hread, hwritten⟩ := ofHex?_hex_roundTrip.1 "Ff0aB1fF".toList (by decide)
    fun c hc => of_decide_eq_true (List.all_eq_true.1 halphabets c hc)
  have hdigits : withoutFullOpacity (lower "Ff0aB1fF".toList) = "ff0ab1".toList := by
    decide +kernel
  rw [hdigits] at hwritten
  exact ⟨c, hread, hwritten⟩

end Rgba
end Cascade
