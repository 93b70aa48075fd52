import Cascade.Color.Reading
import Cascade.Proofs.Alternatives
import Cascade.Proofs.Color.Hexadecimal
import Cascade.Proofs.Length.Units

/-!
# The grammar of colors

A color is spelt by its name, by a semantic token, by hexadecimal digits or by three components.
Names and tokens hold neither a number sign nor a parenthesis, so no text has spellings of two
kinds.
-/

namespace Cascade
open Text

/-! ## 1. Names and tokens -/

/-- No name stands twice in the table, so it is found by what it maps to. -/
theorem Rgba.ofName?_eq_some_iff {t : Text} {c : Rgba} : ofName? t = some c ↔ (t, c) ∈ named := by
  have hnamed : ∀ m ∈ named, ofName? m.1 = some m.2 := by decide +kernel
  exact ⟨mem_of_lookup_eq_some, hnamed (t, c)⟩

namespace Token

def spelling (token : Token) (hyphens : Bool) : Text :=
  if hyphens then token.hyphenated else token.joined

theorem ofSpelling?_spelling (token : Token) (hyphens : Bool) :
    ofSpelling? (token.spelling hyphens) = some token := by
  -- No two tokens share a spelling, so the first one found is the token itself.
  have hall : ∀ token ∈ all, ∀ hyphens, ofSpelling? (token.spelling hyphens) = some token := by
    decide +kernel
  exact hall token (mem_all token) hyphens

theorem exists_spelling_eq {t : Text} {token : Token} (h : ofSpelling? t = some token) :
    ∃ hyphens, token.spelling hyphens = t := by
  have hfound := List.find?_some h
  rw [Bool.or_eq_true, decide_eq_true_iff, decide_eq_true_iff] at hfound
  rcases hfound with hspelt | hspelt
  · exact ⟨true, hspelt⟩
  · exact ⟨false, hspelt⟩

theorem ofName?_spelling (token : Token) (hyphens : Bool) :
    Rgba.ofName? (token.spelling hyphens) = none := by
  have hall : ∀ token ∈ all, ∀ hyphens, Rgba.ofName? (token.spelling hyphens) = none := by
    decide +kernel
  exact hall token (mem_all token) hyphens

end Token

def Color.isMarked (t : Text) : Bool := t.any ['#', '('].contains

/-- A literal is neither a name nor a token. -/
theorem lookups_eq_none_of_isMarked {t : Text} (h : Color.isMarked t = true) :
    Rgba.ofName? t = none ∧ Token.ofSpelling? t = none := by
  have hnamed : ∀ m ∈ Rgba.named, Color.isMarked m.1 = false := by decide +kernel
  have hall : ∀ token ∈ Token.all, ∀ hyphens, Color.isMarked (token.spelling hyphens) = false := by
    decide +kernel
  constructor
  · rw [Option.eq_none_iff_forall_ne_some]
    intro color hcolor
    have hplain : Color.isMarked t = false := hnamed _ (Rgba.ofName?_eq_some_iff.1 hcolor)
    exact Bool.eq_false_iff.1 hplain h
  · rw [Option.eq_none_iff_forall_ne_some]
    intro token htoken
    obtain ⟨hyphens, rfl⟩ := Token.exists_spelling_eq htoken
    exact Bool.eq_false_iff.1 (hall token token.mem_all hyphens) h

/-! ## 2. Components -/

/-- A component of an `rgb()` literal, a number that may have blanks around it. -/
structure Component where
  text : Text
  value : Binary64
  reads : Binary64.ofText? (trim text) = some value

namespace Component

def list (r g b : Component) : Text := r.text ++ ',' :: (g.text ++ ',' :: b.text)

def closing (closed : Bool) : Text := if closed then [')'] else []

def call (r g b : Component) (closed : Bool) (blank : Text) : Text :=
  "rgb(".toList ++ (list r g b ++ (closing closed ++ blank))

theorem isFinite (x : Component) : x.value.isFinite = true := Binary64.isFinite_of_ofText? x.reads

/-- A number holds neither what separates components nor what closes them. -/
theorem not_mem_text {c : Char} (hc : c ∈ [',', ')']) (x : Component) : c ∉ x.text := by
  have hothers : [',', ')'].all
      (fun c => isBlank c = false ∧ isDigit c = false ∧ c ∉ Spelling.marks) = true := by
    decide +kernel
  obtain ⟨hblank, hdigit, hmark⟩ := of_decide_eq_true (List.all_eq_true.1 hothers c hc)
  obtain ⟨before, after, hbefore, hafter, htext⟩ := exists_eq_append_trim x.text
  rw [htext, List.mem_append, List.mem_append]
  rintro (hmem | hmem | hmem)
  · exact not_mem_of_isBlankText hblank hbefore hmem
  · rcases Binary64.isDigit_or_mem_marks x.reads hmem with h | h
    · rw [hdigit] at h
      cases h
    · exact hmark h
  · exact not_mem_of_isBlankText hblank hafter hmem

theorem close_not_mem_list (r g b : Component) : ')' ∉ list r g b := by
  have hnot (x : Component) : ')' ∉ x.text := x.not_mem_text (by decide)
  simp only [list, List.mem_append, List.mem_cons, not_or]
  exact ⟨hnot r, by decide, hnot g, by decide, hnot b⟩

theorem splitOn_list (r g b : Component) : (list r g b).splitOn ',' = [r.text, g.text, b.text] := by
  have hnot (x : Component) : ',' ∉ x.text := x.not_mem_text (by decide)
  unfold list
  rw [List.splitOn_append_cons_self, List.splitOn_append_cons_self,
    List.splitOn_eq_singleton (hnot r), List.splitOn_eq_singleton (hnot g),
    List.splitOn_eq_singleton (hnot b)]
  rfl

end Component

/-! ## 3. Literals -/

namespace Rgba
open Component

def dropClosing (t : Text) : Text := ([')'].isSuffixOf? t).getD t

theorem dropClosing_append (t : Text) : dropClosing (t ++ [')']) = t := by
  unfold dropClosing
  rw [List.isSuffixOf?_eq_some_iff_append_eq.2 rfl, Option.getD_some]

theorem exists_eq_dropClosing_append (t : Text) :
    ∃ closed, t = dropClosing t ++ closing closed := by
  unfold dropClosing
  cases h : [')'].isSuffixOf? t with
  | none => exact ⟨false, (List.append_nil t).symm⟩
  | some rest => exact ⟨true, (List.isSuffixOf?_eq_some_iff_append_eq.1 h).symm⟩

theorem dropClosing_of_not_mem {t : Text} (h : ')' ∉ t) : dropClosing t = t := by
  obtain ⟨closed, ht⟩ := exists_eq_dropClosing_append t
  cases closed with
  | false => exact (ht.trans (List.append_nil _)).symm
  | true =>
    refine absurd ?_ h
    rw [ht]
    exact List.mem_append_right _ List.mem_cons_self

/-- The components of a call, up to the blanks at its end and the parenthesis. -/
theorem components_append (body : Text) :
    components ("rgb(".toList ++ body) = dropClosing (trimEnd body) := by
  -- The start of the call is no blank, so only its end is trimmed.
  have htrim : trim ("rgb(".toList ++ body) = "rgb(".toList ++ trimEnd body :=
    trimEnd_append_cons (by decide : isBlank '(' = false) "rgb".toList body
  have hprefix : "rgb(".toList.isPrefixOf? ("rgb(".toList ++ trimEnd body) = some (trimEnd body) :=
    List.isPrefixOf?_eq_some_iff_append_eq.2 rfl
  show dropClosing (("rgb(".toList.isPrefixOf? (trim ("rgb(".toList ++ body))).getD _) = _
  rw [htrim, hprefix, Option.getD_some]

section
variable (r g b : Component) (closed : Bool) {blank : Text} (h : isBlankText blank = true)
include h

/-- Whether the call is closed and what blanks follow has no part in its components. -/
theorem trim_components : trim (components (call r g b closed blank)) = trim (list r g b) := by
  unfold call
  rw [components_append]
  cases closed with
  | true =>
    have hend : trimEnd (list r g b ++ (closing true ++ blank)) =
        list r g b ++ ')' :: trimEnd blank := trimEnd_append_cons (by decide) _ _
    rw [hend, trimEnd_eq_nil_iff.2 h, dropClosing_append]
  -- What is trimmed off the last component makes no difference to it.
  | false =>
    have hend : trimEnd (list r g b ++ (closing false ++ blank)) = trimEnd (list r g b) :=
      trimEnd_append h _
    have hnot : ')' ∉ trimEnd (list r g b) := fun hmem =>
      close_not_mem_list r g b (mem_of_mem_trimEnd hmem)
    rw [hend, dropClosing_of_not_mem hnot, trim_trimEnd]

theorem map_read_components :
    ((components (call r g b closed blank)).splitOn ',').map
      (fun part => Binary64.ofText? (trim part)) = [some r.value, some g.value, some b.value] := by
  have hparts (t : Text) : (t.splitOn ',').map (fun part => Binary64.ofText? (trim part)) =
      ((t.splitOn ',').map trim).map Binary64.ofText? := by
    rw [List.map_map]
    rfl
  have hcomma : isBlank ',' = false := by decide
  rw [hparts, ← map_trim_splitOn_trim hcomma, trim_components r g b closed h,
    map_trim_splitOn_trim hcomma, splitOn_list, List.map_map]
  simp only [List.map_cons, List.map_nil, Function.comp_apply, r.reads, g.reads, b.reads]

def ofParts (r g b : Component) : Rgba :=
  ⟨r.value.divNat 255, g.value.divNat 255, b.value.divNat 255, .one⟩

theorem ofComponents?_call :
    ofComponents? (call r g b closed blank) = some (ofParts r g b) := by
  unfold ofComponents?
  rw [map_read_components r g b closed h]
  rfl

end

/-- A call that is read is a spelling: three components, a parenthesis or none, and blanks. -/
theorem exists_of_ofComponents? {body : Text} {c : Rgba}
    (h : ofComponents? ("rgb(".toList ++ body) = some c) :
    ∃ (r g b : Component) (closed : Bool) (blank : Text), isBlankText blank = true ∧
      "rgb(".toList ++ body = call r g b closed blank := by
  unfold ofComponents? at h
  split at h
  · rename_i red green blue hmap
    obtain ⟨x, rest, hsplit, hx, hrest⟩ := List.map_eq_cons_iff.1 hmap
    obtain ⟨y, rest, rfl, hy, hrest⟩ := List.map_eq_cons_iff.1 hrest
    obtain ⟨z, rest, rfl, hz, hrest⟩ := List.map_eq_cons_iff.1 hrest
    have hlist : List.intercalate [','] ((components ("rgb(".toList ++ body)).splitOn ',') = _ :=
      List.intercalate_splitOn ','
    rw [hsplit, List.map_eq_nil_iff.1 hrest, components_append] at hlist
    obtain ⟨closed, hclosed⟩ := exists_eq_dropClosing_append (trimEnd body)
    obtain ⟨blank, hblank, hbody⟩ := exists_eq_trimEnd_append body
    refine ⟨⟨x, red, hx⟩, ⟨y, green, hy⟩, ⟨z, blue, hz⟩, closed, blank, hblank, ?_⟩
    apply congrArg ("rgb(".toList ++ ·)
    -- The text is put together again from what was taken off its end and from its three parts.
    calc body = dropClosing (trimEnd body) ++ closing closed ++ blank := by rw [← hclosed, ← hbody]
      _ = List.intercalate [','] [x, y, z] ++ (closing closed ++ blank) := by
        rw [hlist, List.append_assoc]
      _ = x ++ ',' :: (y ++ ',' :: z) ++ (closing closed ++ blank) := by
        simp [List.intercalate]
  · cases h

/-- A hexadecimal literal that is read is a spelling: three octets or four, and blanks. -/
theorem exists_of_ofHex? {rest : Text} {c : Rgba} (h : ofHex? ('#' :: rest) = some c) :
    ∃ (r g b : HexOctet) (a : Option HexOctet) (blank : Text), isBlankText blank = true ∧
      rest = HexOctet.text ([r, g, b] ++ a.toList) ++ blank := by
  have htrim : trim ('#' :: rest) = '#' :: trimEnd rest :=
    trimEnd_append_cons (by decide : isBlank '#' = false) [] rest
  rw [ofHex?_eq_bind, htrim, Option.bind_eq_some_iff] at h
  obtain ⟨ns, hns, hcolor⟩ := h
  obtain ⟨octets, htext, rfl⟩ := exists_of_octets? hns
  obtain ⟨blank, hblank, hrest⟩ := exists_eq_trimEnd_append rest
  have hrest : rest = HexOctet.text octets ++ blank := by
    rw [htext]
    exact hrest
  -- Only three octets and four make a color.
  match octets, hcolor with
  | [r, g, b], _ => exact ⟨r, g, b, none, blank, hblank, hrest⟩
  | [r, g, b, a], _ => exact ⟨r, g, b, some a, blank, hblank, hrest⟩

end Rgba

/-! ## 4. Spellings -/

inductive ColorKind where
  | name
  | token
  | octets
  | components
deriving DecidableEq, Repr

/-- A way to spell a color.  A literal may have blanks behind it, and the parenthesis that closes
the components may be missing. -/
inductive ColorSpelling where
  | name (text : Text) (color : Rgba) (mem : (text, color) ∈ Rgba.named)
  | token (token : Token) (hyphens : Bool)
  | octets (red green blue : HexOctet) (opacity : Option HexOctet) (blank : Text)
      (isBlank : isBlankText blank = true)
  | components (red green blue : Component) (closed : Bool) (blank : Text)
      (isBlank : isBlankText blank = true)

namespace ColorSpelling

def kind : ColorSpelling → ColorKind
  | name .. => .name
  | token .. => .token
  | octets .. => .octets
  | components .. => .components

def text : ColorSpelling → Text
  | name t .. => t
  | token k hyphens => k.spelling hyphens
  | octets r g b a blank _ => '#' :: (HexOctet.text ([r, g, b] ++ a.toList) ++ blank)
  | components r g b closed blank _ => Component.call r g b closed blank

def numbers : ColorSpelling → List Binary64
  | components r g b .. => [r.value, g.value, b.value]
  | _ => []

/-- All spellings of a text hold the same numbers. -/
theorem mem_numbers_iff {s : ColorSpelling} (h : s.kind = .components) {x : Binary64} :
    x ∈ s.numbers ↔ some x ∈
      ((Rgba.components s.text).splitOn ',').map fun part => Binary64.ofText? (trim part) := by
  cases s with
  | components r g b closed blank hblank =>
    unfold text numbers
    rw [Rgba.map_read_components r g b closed hblank]
    simp only [List.mem_cons, Option.some.injEq, List.not_mem_nil]
  | _ => cases h

def color? (provider : Provider) : ColorSpelling → Option Color
  | name _ c _ => some (.rgba c)
  | token k _ => provider.resolve k.name
  | octets r g b a .. =>
    some (.rgba (.ofOctets r.value g.value b.value ((a.map HexOctet.value).getD 255)))
  | components r g b .. => some (.rgba (.ofParts r g b))

end ColorSpelling

namespace Color

theorem ofText?_of_isMarked {t : Text} (h : isMarked t = true) (provider : Provider) :
    ofText? provider t = (literal? t).map .rgba := by
  obtain ⟨hname, htoken⟩ := lookups_eq_none_of_isMarked h
  unfold ofText?
  rw [hname, htoken]

/-- A spelling is read as its color, whatever the provider. -/
theorem ofText?_text (provider : Provider) (s : ColorSpelling) :
    ofText? provider s.text = s.color? provider := by
  cases s with
  | name t c hmem =>
    unfold ofText? ColorSpelling.text ColorSpelling.color?
    rw [Rgba.ofName?_eq_some_iff.2 hmem]
  | token k hyphens =>
    unfold ofText? ColorSpelling.text ColorSpelling.color?
    rw [Token.ofName?_spelling, Token.ofSpelling?_spelling]
  | octets r g b a blank hblank =>
    have hliteral (rest : Text) : literal? ('#' :: rest) = Rgba.ofHex? ('#' :: rest) := rfl
    unfold ColorSpelling.text ColorSpelling.color?
    -- A number sign rules out names and tokens.
    rw [ofText?_of_isMarked rfl, hliteral, Rgba.ofHex?_text _ hblank]
    cases a with
    | none => rfl
    | some a => rfl
  | components r g b closed blank hblank =>
    have hliteral : literal? (Component.call r g b closed blank) =
        Rgba.ofComponents? (Component.call r g b closed blank) := rfl
    unfold ColorSpelling.text ColorSpelling.color?
    rw [ofText?_of_isMarked rfl, hliteral, Rgba.ofComponents?_call r g b closed hblank]
    rfl

/-- Whatever is read as a color is a spelling. -/
theorem exists_spelling {provider : Provider} {t : Text} {c : Color}
    (h : ofText? provider t = some c) : ∃ s : ColorSpelling, s.text = t := by
  unfold ofText? at h
  split at h
  · rename_i color hname
    exact ⟨.name t color (Rgba.ofName?_eq_some_iff.1 hname), rfl⟩
  · rename_i token _ htoken
    obtain ⟨hyphens, hspelt⟩ := Token.exists_spelling_eq htoken
    exact ⟨.token token hyphens, hspelt⟩
  -- Neither a name nor a token, so it must be one of the two literals.
  · obtain ⟨color, hliteral, rfl⟩ := Option.map_eq_some_iff.1 h
    unfold literal? at hliteral
    split at hliteral
    -- Behind the number sign stand octets, and behind the opening of a call components.
    · rename_i hsign
      obtain ⟨rest, rfl⟩ := List.isPrefixOf_iff_prefix.1 hsign
      obtain ⟨r, g, b, a, blank, hblank, rfl⟩ := Rgba.exists_of_ofHex? hliteral
      exact ⟨.octets r g b a blank hblank, rfl⟩
    · split at hliteral
      · rename_i hcall
        obtain ⟨body, rfl⟩ := List.isPrefixOf_iff_prefix.1 hcall
        obtain ⟨r, g, b, closed, blank, hblank, hbody⟩ := Rgba.exists_of_ofComponents? hliteral
        exact ⟨.components r g b closed blank hblank, hbody.symm⟩
      · cases hliteral

end Color

/-! ## 5. The kinds -/

def ColorKind.ofText (t : Text) : ColorKind :=
  if (Rgba.ofName? t).isSome then .name
  else if (Token.ofSpelling? t).isSome then .token
  else if ['#'].isPrefixOf t then .octets
  else .components

namespace ColorSpelling

/-- The text alone tells of which kind its spellings are. -/
theorem kind_ofText_text (s : ColorSpelling) : ColorKind.ofText s.text = s.kind := by
  unfold ColorKind.ofText
  cases s with
  | name t c hmem =>
    rw [text, Rgba.ofName?_eq_some_iff.2 hmem]
    rfl
  | token k hyphens =>
    rw [text, Token.ofName?_spelling, Token.ofSpelling?_spelling]
    rfl
  | octets r g b a blank hblank =>
    obtain ⟨hname, htoken⟩ := lookups_eq_none_of_isMarked
      (rfl : Color.isMarked (text (octets r g b a blank hblank)) = true)
    rw [hname, htoken]
    rfl
  | components r g b closed blank hblank =>
    obtain ⟨hname, htoken⟩ := lookups_eq_none_of_isMarked
      (rfl : Color.isMarked (text (components r g b closed blank hblank)) = true)
    rw [hname, htoken]
    rfl

/-! ## 6. What a spelling stands for -/

/-- Holds for the opacity that an octet says, which is full if there is none. -/
def IsOpacity : Option HexOctet → Binary64 → Prop
  | none, x => x = .one
  | some a, x => Rgba.IsChannel a.value false x

/-- Holds for the color that a spelling stands for, a token being left to be resolved. -/
def Stands : ColorSpelling → Color → Prop
  | name _ c _, color => color = .rgba c
  | token k _, color => color = .semantic k
  | octets r g b a .., color => ∃ c, color = .rgba c ∧ Rgba.IsChannel r.value false c.red ∧
      Rgba.IsChannel g.value false c.green ∧ Rgba.IsChannel b.value false c.blue ∧
      IsOpacity a c.opacity
  | components r g b .., color => ∃ c, color = .rgba c ∧
      Rgba.IsChannel r.value.toRat r.value.isNegative c.red ∧
      Rgba.IsChannel g.value.toRat g.value.isNegative c.green ∧
      Rgba.IsChannel b.value.toRat b.value.isNegative c.blue ∧ c.opacity = .one

theorem isOpacity_iff {a : Option HexOctet} {x : Binary64} :
    IsOpacity a x ↔ x = Rgba.channelOfOctet ((a.map HexOctet.value).getD 255) := by
  cases a with
  | none =>
    rw [Option.map_none, Option.getD_none, (Rgba.channelOfOctet_eq_one_iff (le_refl 255)).2 rfl]
    rfl
  | some a => exact (Rgba.isChannel_channelOfOctet a.value_le).iff_eq

theorem exists_channels_iff {color : Color} {r g b a : Binary64} :
    (∃ c, color = .rgba c ∧ c.red = r ∧ c.green = g ∧ c.blue = b ∧ c.opacity = a) ↔
      color = .rgba ⟨r, g, b, a⟩ := by
  constructor
  · rintro ⟨c, rfl, rfl, rfl, rfl, rfl⟩
    rfl
  · rintro rfl
    exact ⟨_, rfl, rfl, rfl, rfl, rfl⟩

/-- What a spelling is read as is what it stands for, by the channels nearest to its numbers. -/
theorem color?_deferred_eq_some_iff (s : ColorSpelling) (color : Color) :
    s.color? .deferred = some color ↔ s.Stands color := by
  cases s with
  | name t c hmem => rw [color?, Stands, Option.some.injEq, eq_comm]
  | token k hyphens =>
    rw [color?, Stands, Provider.resolve_deferred_name, Option.some.injEq, eq_comm]
  | octets r g b a blank hblank =>
    simp only [color?, Stands, Option.some.injEq, isOpacity_iff,
      (Rgba.isChannel_channelOfOctet r.value_le).iff_eq,
      (Rgba.isChannel_channelOfOctet g.value_le).iff_eq,
      (Rgba.isChannel_channelOfOctet b.value_le).iff_eq, exists_channels_iff]
    exact eq_comm
  | components r g b closed blank hblank =>
    simp only [color?, Stands, Option.some.injEq, (Rgba.isChannel_divNat r.isFinite).iff_eq,
      (Rgba.isChannel_divNat g.isFinite).iff_eq, (Rgba.isChannel_divNat b.isFinite).iff_eq,
      exists_channels_iff]
    exact eq_comm

theorem exists_color?_deferred (s : ColorSpelling) : ∃ color, s.color? .deferred = some color := by
  cases s with
  | token k hyphens => exact ⟨.semantic k, Provider.resolve_deferred_name k⟩
  | _ => exact ⟨_, rfl⟩

end ColorSpelling

namespace Color

/-- **The grammar of colors.**  The texts that are read as colors are the spellings, a spelling is
read as the color that it stands for, all spellings of a text are of one kind, and a text that
spells no token is read alike under every provider. -/
theorem ofText?_isSome_iff_spelling :
    (∀ t : Text, (ofText? .deferred t).isSome = true ↔ ∃ s : ColorSpelling, s.text = t) ∧
    (∀ (s : ColorSpelling) (color : Color),
      ofText? .deferred s.text = some color ↔ s.Stands color) ∧
    (∀ s s' : ColorSpelling, s.text = s'.text → s.kind = s'.kind) ∧
    ∀ t : Text, (∀ s : ColorSpelling, s.text = t → s.kind ≠ .token) →
      ∀ provider provider' : Provider, ofText? provider t = ofText? provider' t := by
  refine ⟨?_, ?_, ?_, ?_⟩
  · intro t
    rw [Option.isSome_iff_exists]
    constructor
    · rintro ⟨color, hcolor⟩
      exact exists_spelling hcolor
    · rintro ⟨s, rfl⟩
      simp only [ofText?_text]
      exact s.exists_color?_deferred
  · intro s color
    rw [ofText?_text]
    exact s.color?_deferred_eq_some_iff color
  · intro s s' htext
    rw [← s.kind_ofText_text, htext, s'.kind_ofText_text]
  · intro t hkind provider provider'
    have htoken : Token.ofSpelling? t = none := by
      rw [Option.eq_none_iff_forall_ne_some]
      intro token htoken
      obtain ⟨hyphens, hspelt⟩ := Token.exists_spelling_eq htoken
      exact hkind (.token token hyphens) hspelt rfl
    -- Without a token the provider is never asked.
    unfold ofText?
    rw [htoken]
    cases Rgba.ofName? t with
    | none => rfl
    | some c => rfl

/-- A call that is not closed, with a digit of another script, a negative zero, an exponent, and a
blank that belongs to the last component or stands behind the call. -/
theorem ofText?_unclosed_call :
    ∃ (s s' : ColorSpelling) (c : Rgba), s ≠ s' ∧ s.text = "rgb(٣, -0,2.55e2 ".toList ∧
      s'.text = s.text ∧ s'.kind = s.kind ∧ s.Stands (.rgba c) ∧
      ∀ provider : Provider, ofText? provider s.text = some (.rgba c) := by
  have hthree : Binary64.ofText? (trim "٣".toList) = some (.ofNat 3) := by decide +kernel
  have hzero : Binary64.ofText? (trim " -0".toList) = some (.zero true) := by decide +kernel
  have hfull : Binary64.ofText? (trim "2.55e2".toList) = some (.ofNat 255) := by decide +kernel
  have hblank : Binary64.ofText? (trim "2.55e2 ".toList) = some (.ofNat 255) := by decide +kernel
  let s : ColorSpelling :=
    .components ⟨_, _, hthree⟩ ⟨_, _, hzero⟩ ⟨_, _, hfull⟩ false [' '] (by decide)
  let s' : ColorSpelling :=
    .components ⟨_, _, hthree⟩ ⟨_, _, hzero⟩ ⟨_, _, hblank⟩ false [] (by decide)
  obtain ⟨hread, hstands, hkind, hprovider⟩ := ofText?_isSome_iff_spelling
  obtain ⟨color, hcolor⟩ := Option.isSome_iff_exists.1 ((hread s.text).2 ⟨s, rfl⟩)
  obtain ⟨c, rfl, -⟩ := (hstands s color).1 hcolor
  refine ⟨s, s', c, ?_, rfl, rfl, hkind s' s rfl, (hstands s _).1 hcolor, ?_⟩
  · intro heq
    injection heq with _ _ _ _ hbehind
    cases hbehind
  · intro provider
    rw [← hcolor]
    apply hprovider
    intro s'' htext
    rw [hkind s'' s htext]
    exact ColorKind.noConfusion

end Color
end Cascade
