import Cascade.Proofs.Json.NumberText

/-!
# Reading printed values back

A printed value with finite numbers is read back as its document, and its text is printable ASCII.
-/

namespace Cascade.Json
open Text

/-! ## 1. Spaces and tokens -/

theorem eq_or_of_mem_newLine {level : Nat} {c : Char} (h : c ∈ newLine level) :
    c = '\n' ∨ c = ' ' := by
  rcases List.mem_cons.1 h with hc | hc
  · exact Or.inl hc
  · exact Or.inr (List.eq_of_mem_replicate hc)

theorem isSpace_of_mem_newLine {level : Nat} {c : Char} (h : c ∈ newLine level) :
    isSpace c = true := by
  rcases eq_or_of_mem_newLine h with rfl | rfl <;> decide

theorem skipSpaces_newLine (level : Nat) (t : Text) :
    skipSpaces (newLine level ++ t) = skipSpaces t :=
  List.dropWhile_append_of_pos fun _ => isSpace_of_mem_newLine

theorem skipSpaces_cons {c : Char} (h : isSpace c = false) (t : Text) :
    skipSpaces (c :: t) = c :: t :=
  List.dropWhile_cons_of_neg (by simp [h])

theorem after?_newLine (token : Char) (level : Nat) (t : Text) :
    after? token (newLine level ++ t) = after? token t := by
  unfold after?
  rw [skipSpaces_newLine]

theorem after?_cons {c : Char} (h : isSpace c = false) (token : Char) (t : Text) :
    after? token (c :: t) = if c = token then some t else none := by
  unfold after?
  rw [skipSpaces_cons h]

theorem readKey_newLine (level : Nat) (t : Text) : readKey (newLine level ++ t) = readKey t := by
  unfold readKey
  rw [after?_newLine]

theorem readValue_newLine (steps level : Nat) (t : Text) :
    readValue steps (newLine level ++ t) = readValue steps t := by
  cases steps with
  | zero => rfl
  | succ steps =>
    unfold readValue
    rw [skipSpaces_newLine]

theorem readValue_space (steps : Nat) (t : Text) :
    readValue steps (' ' :: t) = readValue steps t := by
  cases steps with
  | zero => rfl
  | succ steps => rfl

/-! ## 2. Strings -/

def units (c : Char) : List Nat :=
  if c.toNat < 0x10000 then [c.toNat]
  else [0xD800 + (c.toNat - 0x10000) / 0x400, 0xDC00 + (c.toNat - 0x10000) % 0x400]

/-- A character has a short escape of its own, stands as it is, or is escaped by its code. -/
theorem escape_cases (c : Char) :
    (∃ e, escape c = ['\\', e] ∧ (e, c.toNat) ∈ escapes) ∨
      (escape c = [c] ∧ c ≠ '"' ∧ c ≠ '\\' ∧ 0x20 ≤ c.toNat ∧ c.toNat ≤ 0x7E) ∨
      escape c = escapeCode c.toNat := by
  -- The cases are those of the definition, in their order.
  unfold escape
  split
  · exact Or.inl ⟨'"', rfl, by subst_vars; decide⟩
  split
  · exact Or.inl ⟨'\\', rfl, by subst_vars; decide⟩
  split
  · exact Or.inl ⟨'n', rfl, by subst_vars; decide⟩
  split
  · exact Or.inl ⟨'r', rfl, by subst_vars; decide⟩
  split
  · exact Or.inl ⟨'t', rfl, by subst_vars; decide⟩
  split
  · exact Or.inl ⟨'b', rfl, by subst_vars; decide⟩
  split
  · exact Or.inl ⟨'f', rfl, by subst_vars; decide⟩
  split
  · rename_i hquote hslash _ _ _ _ _ h
    rw [Bool.and_eq_true, decide_eq_true_eq, decide_eq_true_eq] at h
    exact Or.inr (Or.inl ⟨rfl, hquote, hslash, h⟩)
  · exact Or.inr (Or.inr rfl)

section
variable (rest : Text)

/-- Four hexadecimal digits are read as the unit that they count. -/
theorem readCodes_escapeUnit {n : Nat} (h : n < 0x10000) :
    readCodes (escapeUnit n ++ rest) = (readCodes rest).map (withCodes [n]) := by
  have hdigits : escapeUnit n = ['\\', 'u', hexDigit (n / 16 / 16 / 16 % 16),
      hexDigit (n / 16 / 16 % 16), hexDigit (n / 16 % 16), hexDigit (n % 16)] := by
    simp [escapeUnit, hexDigits]
  have hunit : unit? (hexDigit (n / 16 / 16 / 16 % 16)) (hexDigit (n / 16 / 16 % 16))
      (hexDigit (n / 16 % 16)) (hexDigit (n % 16)) = some n := by
    unfold unit?
    rw [hexValue?_hexDigit (by omega), hexValue?_hexDigit (by omega), hexValue?_hexDigit (by omega),
      hexValue?_hexDigit (by omega)]
    dsimp only
    congr 1
    omega
  rw [hdigits]
  simp only [List.cons_append, List.nil_append]
  rw [readCodes, hunit]
  rfl

theorem readCodes_escapes {c : Char} {n : Nat} (h : (c, n) ∈ escapes) :
    readCodes ('\\' :: c :: rest) = (readCodes rest).map (withCodes [n]) := by
  have hfound : ∀ m ∈ escapes, m.1 ≠ 'u' ∧ escapes.lookup m.1 = some m.2 := by decide
  obtain ⟨hc, hlookup⟩ := hfound (c, n) h
  rw [readCodes, hlookup]
  · rfl
  · intro _ _ _ _ _ heq
    exact absurd heq hc

theorem readCodes_cons {c : Char} (hquote : c ≠ '"') (hslash : c ≠ '\\') (h : 0x20 ≤ c.toNat) :
    readCodes (c :: rest) = (readCodes rest).map (withCodes [c.toNat]) := by
  rw [readCodes, if_neg (Nat.not_lt.2 h)]
  · exact hquote
  · intro _ _ _ _ _ heq
    exact absurd heq hslash
  · intro _ _ heq
    exact absurd heq hslash

theorem map_withCodes (codes codes' : List Nat) (r : Option (List Nat × Text)) :
    (r.map (withCodes codes')).map (withCodes codes) = r.map (withCodes (codes ++ codes')) := by
  cases r with
  | none => rfl
  | some r => simp [withCodes]

theorem readCodes_escapeCode (c : Char) :
    readCodes (escapeCode c.toNat ++ rest) = (readCodes rest).map (withCodes (units c)) := by
  have hvalid : c.toNat < 0xD800 ∨ 0xDFFF < c.toNat ∧ c.toNat < 0x110000 := c.valid
  unfold escapeCode units
  split
  · rename_i h
    exact readCodes_escapeUnit rest h
  -- A character beyond the first plane is escaped by two units, each of which is small.
  · rw [List.append_assoc, readCodes_escapeUnit _ (by omega), readCodes_escapeUnit _ (by omega),
      map_withCodes]
    rfl

/-- Whichever escape was chosen for a character, its code units are read back. -/
theorem readCodes_escape (c : Char) :
    readCodes (escape c ++ rest) = (readCodes rest).map (withCodes (units c)) := by
  rcases escape_cases c with ⟨e, hescape, he⟩ | ⟨hescape, hquote, hslash, hleast, hmost⟩ | hescape
  · have hbound : ∀ m ∈ escapes, m.2 < 0x10000 := by decide
    have hunits : units c = [c.toNat] := if_pos (hbound (e, c.toNat) he)
    rw [hescape, hunits]
    exact readCodes_escapes rest he
  · have hunits : units c = [c.toNat] := if_pos (by omega)
    rw [hescape, hunits]
    exact readCodes_cons rest hquote hslash hleast
  · rw [hescape]
    exact readCodes_escapeCode rest c

theorem readCodes_flatMap_escape (t : Text) :
    readCodes (t.flatMap escape ++ '"' :: rest) = some (t.flatMap units, rest) := by
  induction t with
  | nil => simp [readCodes]
  | cons c t ih =>
    rw [List.flatMap_cons, List.append_assoc, readCodes_escape, ih]
    rfl

end

/-- Code units are joined to their character again, also where they are two. -/
theorem ofCodes?_units (c : Char) (codes : List Nat) :
    ofCodes? (units c ++ codes) = (ofCodes? codes).map (c :: ·) := by
  have hvalid : c.toNat.isValidChar := c.valid
  have hc : Char.ofNat c.toNat = c := Char.ofNat_toNat c
  unfold units
  split
  · rw [List.singleton_append, ofCodes?.eq_def]
    dsimp only
    rw [if_pos hvalid, hc]
  · rename_i h
    have hrange : c.toNat < 0xD800 ∨ 0xDFFF < c.toNat ∧ c.toNat < 0x110000 := hvalid
    -- The first unit is a high surrogate and the second one a low one, and they are joined again.
    have hhigh : ¬ (0xD800 + (c.toNat - 0x10000) / 0x400).isValidChar := by
      unfold Nat.isValidChar
      omega
    have hpair : (isHigh (0xD800 + (c.toNat - 0x10000) / 0x400) &&
        isLow (0xDC00 + (c.toNat - 0x10000) % 0x400)) = true := by
      simp only [isHigh, isLow, Bool.and_eq_true, decide_eq_true_eq]
      omega
    have hjoined : 0x10000 + 0x400 * (0xD800 + (c.toNat - 0x10000) / 0x400 - 0xD800) +
        (0xDC00 + (c.toNat - 0x10000) % 0x400 - 0xDC00) = c.toNat := by
      omega
    rw [List.cons_append, List.singleton_append, ofCodes?.eq_def]
    dsimp only
    rw [if_neg hhigh, if_pos hpair, hjoined, hc]

theorem ofCodes?_flatMap_units (t : Text) : ofCodes? (t.flatMap units) = some t := by
  induction t with
  | nil => rfl
  | cons c t ih =>
    rw [List.flatMap_cons, ofCodes?_units, ih]
    rfl

/-- The text of a string is read back up to its closing quote. -/
theorem readText_flatMap_escape (t rest : Text) :
    readText (t.flatMap escape ++ '"' :: rest) = some (t, rest) := by
  unfold readText
  rw [readCodes_flatMap_escape, Option.bind_some]
  dsimp only
  rw [ofCodes?_flatMap_units]
  rfl

theorem string_append (t rest : Text) :
    string t ++ rest = '"' :: (t.flatMap escape ++ '"' :: rest) := by
  simp [string]

theorem readKey_string (key rest : Text) :
    readKey (string key ++ ": ".toList ++ rest) = some (key, ' ' :: rest) := by
  unfold readKey
  rw [List.append_assoc, string_append, after?_cons (by decide), if_pos rfl, Option.bind_some,
    readText_flatMap_escape, Option.bind_some]
  show (after? ':' (':' :: ' ' :: rest)).map (fun rest => (key, rest)) = some (key, ' ' :: rest)
  rw [after?_cons (by decide), if_pos rfl]
  rfl

/-! ## 3. Strings and numbers as values -/

theorem readValue_string (t rest : Text) {steps : Nat} (h : (string t).length ≤ steps) :
    readValue steps (string t ++ rest) = some (.text t, rest) := by
  rw [string, List.length_append, List.length_cons] at h
  obtain ⟨steps, rfl⟩ : ∃ k, steps = k + 1 := ⟨steps - 1, by omega⟩
  rw [string_append, readValue, skipSpaces_cons (by decide)]
  dsimp only
  rw [if_pos rfl, readText_flatMap_escape]
  rfl

theorem ne_of_isNumberChar {c : Char} (h : isNumberChar c = true) :
    ∀ d ∈ [' ', '\t', '\n', '\r', '"', '[', '\x7b'], c ≠ d := by
  have hother : [' ', '\t', '\n', '\r', '"', '[', '\x7b'].all (!isNumberChar ·) = true := by decide
  intro d hd heq
  have hd' := List.all_eq_true.1 hother d hd
  rw [← heq, h] at hd'
  exact absurd hd' (by decide)

/-- A number is read to its end, since what follows it cannot belong to one. -/
theorem readValue_number {t rest : Text} (h : isNumber t = true)
    (hrest : ∀ c ∈ rest.head?, isNumberChar c = false) {steps : Nat} (hsteps : t.length ≤ steps) :
    readValue steps (t ++ rest) = some (.number t, rest) := by
  have hchars := isNumberChar_of_isNumber h
  cases t with
  | nil => cases h
  | cons c t =>
    rw [List.length_cons] at hsteps
    obtain ⟨steps, rfl⟩ : ∃ k, steps = k + 1 := ⟨steps - 1, by omega⟩
    have hc : isNumberChar c = true := hchars c List.mem_cons_self
    have hne := ne_of_isNumberChar hc
    have hspace : isSpace c = false := by simp [isSpace, hne]
    rw [List.cons_append, readValue, skipSpaces_cons hspace]
    dsimp only
    rw [if_neg (hne '"' (by simp)), if_neg (hne '[' (by simp)), if_neg (hne '\x7b' (by simp)),
      if_pos hc, ← List.cons_append]
    unfold readNumber
    rw [takeWhile_append_of_head hchars hrest, dropWhile_append_of_head hchars hrest]
    exact if_pos h

/-! ## 4. Series -/

theorem intercalate_map_cons {β : Type} (text : β → Text) (b next : β) (others : List β) :
    List.intercalate [','] ((b :: next :: others).map text) =
      text b ++ ',' :: List.intercalate [','] ((next :: others).map text) := by
  rw [List.map_cons, List.map_cons, List.intercalate_cons_cons, List.append_assoc]
  rfl

section
variable {α β : Type} {readOne : Text → Option (α × Text)}

/-- A reader reads a value off the text, as long as no number is carried on behind it. -/
def Reads (readOne : Text → Option (α × Text)) (t : Text) (a : α) : Prop :=
  ∀ rest : Text, (∀ c ∈ rest.head?, isNumberChar c = false) → readOne (t ++ rest) = some (a, rest)

/-- Values joined by commas are read back one after the other. -/
theorem readSeries_intercalate (close : Char) (hspace : isSpace close = false)
    (hcomma : close ≠ ',') {text : β → Text} {value : β → α} {items : List β} (hne : items ≠ [])
    (h : ∀ b ∈ items, Reads readOne (text b) (value b)) {steps : Nat}
    (hsteps : items.length ≤ steps) (level : Nat) (rest : Text) :
    readSeries readOne close steps
        (List.intercalate [','] (items.map text) ++ (newLine level ++ close :: rest)) =
      some (items.map value, rest) := by
  induction items generalizing steps with
  | nil => exact absurd rfl hne
  | cons b others ih =>
    rw [List.length_cons] at hsteps
    obtain ⟨steps, rfl⟩ : ∃ k, steps = k + 1 := ⟨steps - 1, by omega⟩
    have hb : Reads readOne (text b) (value b) := h b List.mem_cons_self
    cases others with
    | nil =>
      have hread := hb (newLine level ++ close :: rest) (by
        intro c hc
        cases hc
        decide)
      rw [List.map_singleton, List.intercalate_singleton, readSeries, hread]
      dsimp only
      rw [after?_newLine, after?_newLine, after?_cons hspace, after?_cons hspace, if_neg hcomma,
        if_pos rfl]
      rfl
    -- A comma follows the first item, and the rest is a series again.
    | cons next others =>
      have hlength : (next :: others).length ≤ steps := by omega
      have hothers := ih (by simp) (fun d hd => h d (List.mem_cons_of_mem b hd)) hlength
      have hread := hb (',' :: (List.intercalate [','] ((next :: others).map text) ++
        (newLine level ++ close :: rest))) (by
          intro c hc
          cases hc
          decide)
      rw [intercalate_map_cons, List.append_assoc, List.cons_append, readSeries, hread]
      dsimp only
      rw [after?_cons (by decide), if_pos rfl]
      dsimp only
      rw [hothers]
      rfl

/-- A series is at least as long as any of its texts and as the number of its commas. -/
theorem length_le_length_intercalate (text : β → Text) (items : List β) :
    items.length ≤ (List.intercalate [','] (items.map text)).length + 1 ∧
      ∀ b ∈ items, (text b).length ≤ (List.intercalate [','] (items.map text)).length := by
  induction items with
  | nil => simp
  | cons b rest ih =>
    cases rest with
    | nil => simp
    | cons next rest =>
      obtain ⟨hcount, hitems⟩ := ih
      rw [intercalate_map_cons]
      simp only [List.length_append, List.length_cons] at hcount ⊢
      refine ⟨by omega, ?_⟩
      intro d hd
      rcases List.mem_cons.1 hd with rfl | hd
      · omega
      · have hlength := hitems d hd
        omega

/-- A series is read back in as many steps as its text has characters and one more. -/
theorem readSeries_of_length (close : Char) (hspace : isSpace close = false) (hcomma : close ≠ ',')
    {text : β → Text} {value : β → α} {items : List β} (hne : items ≠ []) {steps : Nat}
    (h : ∀ b ∈ items, (text b).length ≤ steps → Reads readOne (text b) (value b))
    (hsteps : (List.intercalate [','] (items.map text)).length < steps) (level : Nat)
    (rest : Text) :
    readSeries readOne close steps
        (List.intercalate [','] (items.map text) ++ (newLine level ++ close :: rest)) =
      some (items.map value, rest) := by
  obtain ⟨hcount, hlength⟩ := length_le_length_intercalate text items
  have hreads : ∀ b ∈ items, Reads readOne (text b) (value b) := by
    intro b hb
    have hb' := hlength b hb
    exact h b hb (by omega)
  have hitems : items.length ≤ steps := by omega
  exact readSeries_intercalate close hspace hcomma hne hreads hitems level rest

end

/-- A series that is read starts with an item. -/
theorem exists_readOne_of_readSeries {α : Type} {readOne : Text → Option (α × Text)} {close : Char}
    {steps : Nat} {t : Text} {r : List α × Text} (h : readSeries readOne close steps t = some r) :
    ∃ first, readOne t = some first := by
  cases steps with
  | zero => cases h
  | succ steps =>
    rw [readSeries] at h
    cases hfirst : readOne t with
    | none =>
      rw [hfirst] at h
      cases h
    | some first => exact ⟨first, rfl⟩

theorem renderItems_eq_intercalate (level : Nat) (items : List Json) :
    renderItems level items =
      List.intercalate [','] (items.map fun v => newLine level ++ render level v) := by
  induction items with
  | nil => rfl
  | cons v rest ih =>
    cases rest with
    | nil => rw [List.map_singleton, List.intercalate_singleton, renderItems]
    | cons next rest =>
      rw [intercalate_map_cons, ← ih]
      simp [renderItems]

def memberText (level : Nat) (m : Text × Json) : Text :=
  string m.1 ++ ": ".toList ++ render level m.2

theorem renderMembers_eq_intercalate (level : Nat) (members : List (Text × Json)) :
    renderMembers level members =
      List.intercalate [','] (members.map fun m => newLine level ++ memberText level m) := by
  induction members with
  | nil => rfl
  | cons m rest ih =>
    cases rest with
    | nil => simp [List.intercalate_singleton, renderMembers, memberText]
    | cons next rest =>
      rw [intercalate_map_cons, ← ih]
      simp [renderMembers, memberText]

/-! ## 5. Lists, objects and values -/

/-- No value starts with a closing bracket. -/
theorem after?_of_readValue {steps : Nat} {t : Text} {r : Document × Text}
    (h : readValue steps t = some r) : after? ']' t = none := by
  cases steps with
  | zero => cases h
  | succ steps =>
    rw [readValue] at h
    unfold after?
    cases ht : skipSpaces t with
    | nil => rfl
    | cons c rest =>
      apply if_neg
      rintro rfl
      rw [ht] at h
      cases h

/-- A member starts with a quote. -/
theorem after?_of_readMember {α : Type} {readOne : Text → Option (α × Text)} {t : Text}
    {r : (Text × α) × Text} (h : readMember readOne t = some r) : after? '\x7d' t = none := by
  unfold readMember readKey after? at h
  unfold after?
  cases ht : skipSpaces t with
  | nil => rfl
  | cons c rest =>
    apply if_neg
    rintro rfl
    rw [ht] at h
    cases h

def ReadsBack (v : Json) : Prop :=
  ∀ level steps : Nat, (render level v).length ≤ steps →
    Reads (readValue steps) (render level v) v.document

/-- A list is read back if its items are, on the next level and with one step less. -/
theorem readsBack_list {items : List Json} (h : ∀ v ∈ items, v.ReadsBack) :
    (list items).ReadsBack := by
  intro level steps hsteps rest hrest
  by_cases hne : items = []
  · subst hne
    cases steps with
    | zero => cases hsteps
    | succ steps => rfl
  · have htext : render level (list items) =
        '[' :: (renderItems (level + 1) items ++ (newLine level ++ [']'])) := by
      simp [render, hne]
    simp only [htext, newLine, List.length_cons, List.length_append] at hsteps
    obtain ⟨steps, rfl⟩ : ∃ k, steps = k + 1 := ⟨steps - 1, by omega⟩
    have hreads : ∀ v ∈ items, (newLine (level + 1) ++ render (level + 1) v).length ≤ steps →
        Reads (readValue steps) (newLine (level + 1) ++ render (level + 1) v) v.document := by
      intro v hv hlength rest' hrest'
      rw [List.length_append] at hlength
      rw [List.append_assoc, readValue_newLine]
      exact h v hv (level + 1) steps (by omega) rest' hrest'
    rw [renderItems_eq_intercalate] at htext hsteps
    have hseries :=
      readSeries_of_length ']' (by decide) (by decide) hne hreads (by omega) level rest
    -- The first item shows that the list is not the empty one.
    obtain ⟨first, hfirst⟩ := exists_readOne_of_readSeries hseries
    rw [htext, List.cons_append, List.append_assoc, List.append_assoc, List.singleton_append,
      readValue, skipSpaces_cons (by decide)]
    dsimp only
    rw [if_neg (by decide), if_pos rfl, after?_of_readValue hfirst]
    dsimp only
    rw [hseries, document, documentItems_eq_map]
    rfl

/-- An object is read back if its values are. -/
theorem readsBack_object {members : List (Text × Json)} (h : ∀ m ∈ members, m.2.ReadsBack) :
    (object members).ReadsBack := by
  intro level steps hsteps rest hrest
  by_cases hne : members = []
  · subst hne
    cases steps with
    | zero => cases hsteps
    | succ steps => rfl
  · have htext : render level (object members) =
        '\x7b' :: (renderMembers (level + 1) members ++ (newLine level ++ ['\x7d'])) := by
      simp [render, hne]
    simp only [htext, newLine, List.length_cons, List.length_append] at hsteps
    obtain ⟨steps, rfl⟩ : ∃ k, steps = k + 1 := ⟨steps - 1, by omega⟩
    have hreads : ∀ m ∈ members, (newLine (level + 1) ++ memberText (level + 1) m).length ≤ steps →
        Reads (readMember (readValue steps)) (newLine (level + 1) ++ memberText (level + 1) m)
          (m.1, m.2.document) := by
      intro m hm hlength rest' hrest'
      simp only [memberText, List.length_append] at hlength
      have hvalue := h m hm (level + 1) steps (by omega) rest' hrest'
      unfold readMember memberText
      rw [List.append_assoc, readKey_newLine, List.append_assoc, readKey_string]
      dsimp only
      rw [readValue_space, hvalue]
      rfl
    rw [renderMembers_eq_intercalate] at htext hsteps
    have hseries :=
      readSeries_of_length '\x7d' (by decide) (by decide) hne hreads (by omega) level rest
    -- The first member shows that the object is not the empty one.
    obtain ⟨first, hfirst⟩ := exists_readOne_of_readSeries hseries
    rw [htext, List.cons_append, List.append_assoc, List.append_assoc, List.singleton_append,
      readValue, skipSpaces_cons (by decide)]
    dsimp only
    rw [if_neg (by decide), if_neg (by decide), if_pos rfl, after?_of_readMember hfirst]
    dsimp only
    rw [hseries, document, documentMembers_eq_map]
    rfl

/-- By induction on the value, everything that is finite is read back. -/
theorem readsBack_of_isFinite {v : Json} (hv : v.IsFinite) : v.ReadsBack := by
  induction hv with
  | flag b =>
    intro level steps hsteps rest hrest
    cases steps with
    | zero => cases b <;> cases hsteps
    | succ steps => cases b <;> rfl
  | whole n =>
    intro level steps hsteps rest hrest
    exact readValue_number (isNumber_toDigits n) hrest hsteps
  | number hx =>
    intro level steps hsteps rest hrest
    exact readValue_number (isNumber_text hx) hrest hsteps
  | text t =>
    intro level steps hsteps rest hrest
    exact readValue_string t rest hsteps
  | list h ih => exact readsBack_list ih
  | object h ih => exact readsBack_object ih

/-- **What is printed is read back.**  The printed text of a value without infinite numbers, with
any spaces behind it, is a JSON text and says what the value is. -/
theorem ofText?_print {v : Json} (hv : v.IsFinite) (spaces : Text)
    (hspaces : ∀ c ∈ spaces, isSpace c = true) :
    Document.ofText? (print v ++ spaces) = some v.document := by
  have hrest : ∀ c ∈ spaces.head?, isNumberChar c = false := by
    intro c hc
    cases hchar : isNumberChar c with
    | false => rfl
    -- A space is no character of a number, so no number is carried on by one.
    | true =>
      have hne := ne_of_isNumberChar hchar
      have hspace := hspaces c (List.mem_of_mem_head? hc)
      simp [isSpace, hne] at hspace
  have hlength : (render 0 v).length ≤ (print v ++ spaces).length := by
    rw [List.length_append]
    exact Nat.le_add_right _ _
  have hread := readsBack_of_isFinite hv 0 _ hlength spaces hrest
  unfold Document.ofText?
  rw [show readValue _ (print v ++ spaces) = some (v.document, spaces) from hread]
  exact if_pos (List.all_eq_true.2 hspaces)

/-! ## 6. Plain characters -/

def isPlain (c : Char) : Bool := c = '\n' || (0x20 ≤ c.toNat && c.toNat ≤ 0x7E)

theorem isPlain_of_isNumberChar {c : Char} (h : isNumberChar c = true) : isPlain c = true := by
  simp only [isNumberChar, Bool.or_eq_true, decide_eq_true_eq] at h
  rcases h with ((((h | rfl) | rfl) | rfl) | rfl) | rfl
  · have hrange : 48 ≤ c.toNat ∧ c.toNat ≤ 57 := Char.isDigit_iff_toNat.1 h
    simp only [isPlain, Bool.or_eq_true, Bool.and_eq_true, decide_eq_true_eq]
    omega
  all_goals decide

theorem isPlain_of_mem_hexDigits {width n : Nat} {c : Char} (h : c ∈ hexDigits width n) :
    isPlain c = true := by
  induction width generalizing n with
  | zero => cases h
  | succ width ih =>
    rw [hexDigits, List.mem_append, List.mem_singleton] at h
    rcases h with h | rfl
    · exact ih h
    · have hdigit : ∀ d : Fin 16, isPlain (hexDigit d) = true := by decide
      exact hdigit ⟨n % 16, Nat.mod_lt n (by decide)⟩

theorem isPlain_of_mem_escapeUnit {n : Nat} {c : Char} (h : c ∈ escapeUnit n) :
    isPlain c = true := by
  rw [escapeUnit, List.mem_cons, List.mem_cons] at h
  rcases h with rfl | rfl | h
  · decide
  · decide
  · exact isPlain_of_mem_hexDigits h

/-- An escape consists of printable characters, and only these stand unescaped. -/
theorem isPlain_of_mem_escape {c d : Char} (h : d ∈ escape c) : isPlain d = true := by
  rcases escape_cases c with ⟨e, hescape, he⟩ | ⟨hescape, -, -, hrange⟩ | hescape
  · have hplain : ∀ m ∈ escapes, isPlain m.1 = true := by decide
    rw [hescape, List.mem_cons, List.mem_singleton] at h
    rcases h with rfl | rfl
    · decide
    · exact hplain _ he
  · rw [hescape, List.mem_singleton] at h
    subst h
    simp [isPlain, hrange]
  · rw [hescape, escapeCode] at h
    split at h
    · exact isPlain_of_mem_escapeUnit h
    · rcases List.mem_append.1 h with h | h
      · exact isPlain_of_mem_escapeUnit h
      · exact isPlain_of_mem_escapeUnit h

theorem isPlain_of_mem_string {t : Text} {c : Char} (h : c ∈ string t) : isPlain c = true := by
  rw [string, List.mem_append, List.mem_cons, List.mem_flatMap, List.mem_singleton] at h
  rcases h with (rfl | ⟨d, -, h⟩) | rfl
  · decide
  · exact isPlain_of_mem_escape h
  · decide

theorem isPlain_of_mem_newLine {level : Nat} {c : Char} (h : c ∈ newLine level) :
    isPlain c = true := by
  rcases eq_or_of_mem_newLine h with rfl | rfl <;> decide

/-- The characters between two brackets are those of the newlines, the commas and the texts. -/
theorem isPlain_of_mem_series {β : Type} {level : Nat} {text : β → Text} {items : List β}
    (h : ∀ b ∈ items, ∀ c ∈ text b, isPlain c = true) {opening closing : Char}
    (hopening : isPlain opening = true) (hclosing : isPlain closing = true) {c : Char}
    (hc : c ∈ opening ::
        List.intercalate [','] (items.map fun b => newLine (level + 1) ++ text b) ++
      newLine level ++ [closing]) : isPlain c = true := by
  rw [List.mem_append, List.mem_append, List.mem_cons, List.mem_singleton] at hc
  rcases hc with ((rfl | hc) | hc) | rfl
  · exact hopening
  · by_cases hcomma : c = ','
    · rw [hcomma]
      decide
    · obtain ⟨piece, hpiece, hc⟩ := (mem_intercalate_iff (by simpa using hcomma)).1 hc
      obtain ⟨b, hb, rfl⟩ := List.mem_map.1 hpiece
      rcases List.mem_append.1 hc with hc | hc
      · exact isPlain_of_mem_newLine hc
      · exact h b hb c hc
  · exact isPlain_of_mem_newLine hc
  · exact hclosing

theorem isPlain_of_mem_memberText {level : Nat} {m : Text × Json}
    (h : ∀ c ∈ render level m.2, isPlain c = true) {c : Char} (hc : c ∈ memberText level m) :
    isPlain c = true := by
  have hcolon : ∀ c ∈ ": ".toList, isPlain c = true := List.all_eq_true.1 (by decide)
  rw [memberText, List.mem_append, List.mem_append] at hc
  rcases hc with (hc | hc) | hc
  · exact isPlain_of_mem_string hc
  · exact hcolon c hc
  · exact h c hc

/-- Apart from newlines only printable ASCII is written. -/
theorem isPlain_of_mem_render {v : Json} (hv : v.IsFinite) :
    ∀ (level : Nat), ∀ c ∈ render level v, isPlain c = true := by
  induction hv with
  | flag b =>
    intro level
    cases b with
    | false =>
      have hword : "false".toList.all isPlain = true := by decide
      exact List.all_eq_true.1 hword
    | true =>
      have hword : "true".toList.all isPlain = true := by decide
      exact List.all_eq_true.1 hword
  | whole n =>
    intro level c hc
    exact isPlain_of_isNumberChar (isNumberChar_of_isDigit (isDigit_of_mem_toDigits hc))
  | number hx =>
    intro level c hc
    exact isPlain_of_isNumberChar (isNumberChar_of_isNumber (isNumber_text hx) c hc)
  | text t =>
    intro level c hc
    exact isPlain_of_mem_string hc
  | list h ih =>
    intro level c hc
    unfold render at hc
    split at hc
    · have hbrackets : "[]".toList.all isPlain = true := by decide
      exact List.all_eq_true.1 hbrackets c hc
    · rw [renderItems_eq_intercalate] at hc
      exact isPlain_of_mem_series (fun v hv => ih v hv (level + 1)) (by decide) (by decide) hc
  | object h ih =>
    intro level c hc
    unfold render at hc
    split at hc
    · have hbrackets : "\x7b\x7d".toList.all isPlain = true := by decide
      exact List.all_eq_true.1 hbrackets c hc
    · rw [renderMembers_eq_intercalate] at hc
      refine isPlain_of_mem_series ?_ (by decide) (by decide) hc
      intro m hm d hd
      exact isPlain_of_mem_memberText (ih m hm (level + 1)) hd

end Cascade.Json
