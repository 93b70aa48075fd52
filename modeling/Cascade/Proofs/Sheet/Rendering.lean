import Cascade.Proofs.Sheet.Entries
import Cascade.Proofs.Sheet.History
import Cascade.Proofs.Sheet.Writing

/-!
# Rendering a stylesheet

A stylesheet that was read is rendered as one rule for each class, with a point before the name, and
reading that gives it back.
-/

namespace Cascade
open Text

/-! ## 1. Rules on lines -/

def ruleLine (name body : Text) : Text :=
  '.' :: name ++ ([' ', '{', ' '] ++ (body ++ [' ', '}', '\n']))

namespace ReadEntry
variable {name body : Text}

theorem body_not_blank (h : ReadEntry name body) : isBlankText body = false := by
  rw [← trim_ne_nil_iff, h.trim_body]
  exact h.body_ne_nil

def rule (h : ReadEntry name body) : Rule where
  selectors := ['.' :: name ++ [' ']]
  body := ' ' :: body ++ [' ']
  plain_selectors := by
    obtain ⟨hcomma, hopen, hclosed⟩ := h.plain_name
    simp [hcomma, hopen, hclosed]
  selects := ⟨_, List.mem_singleton_self _, rfl⟩
  plain_body := by
    obtain ⟨hopen, hclosed⟩ := h.plain_body
    simp [hopen, hclosed]
  body_not_blank := by
    obtain ⟨c, hmem, hc⟩ := List.all_eq_false.1 h.body_not_blank
    exact List.all_eq_false.2 ⟨c, by simp [hmem], hc⟩

theorem text_rule (h : ReadEntry name body) :
    h.rule.text = '.' :: name ++ [' '] ++ '{' :: (' ' :: body ++ [' ']) := by
  unfold Rule.text rule
  rw [List.intercalate_singleton]

theorem ruleLine_eq (h : ReadEntry name body) :
    ruleLine name body = (Item.rule h.rule).text ++ ['\n'] := by
  have htext : (Item.rule h.rule).text = h.rule.text ++ ['}'] := rfl
  rw [htext, h.text_rule]
  simp [ruleLine]

/-- Read, the rule of an entry defines the entry, with the point that is dropped again. -/
theorem definitions_rule (h : ReadEntry name body) :
    h.rule.definitions = [('.' :: name, body)] := by
  have hblank : isBlankText [' '] = true := rfl
  have hselector : isBlankText ('.' :: name ++ [' ']) = false := rfl
  have hname : trim ('.' :: name ++ [' ']) = '.' :: name := by
    rw [trim_append_right hblank, h.trim_name]
  have hbody : trim (' ' :: body ++ [' ']) = body := by
    rw [trim_append_right hblank, trim_cons_of_isBlank (by decide), h.trim_body]
  unfold Rule.definitions rule
  rw [List.filter_cons_of_pos (by rw [hselector]; rfl), List.filter_nil, List.map_singleton, hname,
    hbody]

end ReadEntry

theorem getLast?_ruleLine (name body : Text) : (ruleLine name body).getLast? = some '\n' := by
  have hline : ruleLine name body =
      ('.' :: name ++ ([' ', '{', ' '] ++ (body ++ [' ', '}']))) ++ ['\n'] := by
    simp [ruleLine]
  rw [hline, List.getLast?_concat]

/-- The blanks and braces of a line join nothing in it to an opening of a comment. -/
theorem Comment.opensIn_ruleLine {name body : Text} (hname : opensIn name = false)
    (hbody : opensIn body = false) : opensIn (ruleLine name body) = false := by
  have hend : opensIn (body ++ [' ', '}', '\n']) = false :=
    occursIn_pair_append hbody (by decide) (by simp)
  have hopening : opensIn ([' ', '{', ' '] ++ (body ++ [' ', '}', '\n'])) = false :=
    occursIn_pair_append (by decide) hend (by simp)
  have hpoint : opensIn ('.' :: name) = false :=
    occursIn_pair_cons_eq_false_iff.2 ⟨by simp, hname⟩
  exact occursIn_pair_append hpoint hopening (by simp)

/-! ## 2. Lines, one after the other -/

def ruleLines (entries : List (Text × Text)) : Text :=
  entries.flatMap fun (name, body) => ruleLine name body

theorem ruleLines_cons (e : Text × Text) (rest : List (Text × Text)) :
    ruleLines (e :: rest) = ruleLine e.1 e.2 ++ ruleLines rest :=
  List.flatMap_cons

/-- Nor does a comment come about between lines. -/
theorem opensIn_ruleLines {entries : List (Text × Text)}
    (h : ∀ e ∈ entries, Comment.opensIn e.1 = false ∧ Comment.opensIn e.2 = false) :
    Comment.opensIn (ruleLines entries) = false := by
  induction entries with
  | nil => rfl
  | cons e rest ih =>
    obtain ⟨hname, hbody⟩ := h e List.mem_cons_self
    have hrest := ih fun other hother => h other (List.mem_cons_of_mem e hother)
    rw [ruleLines_cons]
    refine occursIn_pair_append (Comment.opensIn_ruleLine hname hbody) hrest ?_
    -- A line ends with its line end and not with a slash.
    rintro ⟨hlast, -⟩
    rw [getLast?_ruleLine] at hlast
    exact absurd hlast (by decide)

/-- Line by line the entries are defined in their order. -/
theorem definitions_listOfBare_ruleLines {entries : List (Text × Text)}
    (h : ∀ e ∈ entries, ReadEntry e.1 e.2) :
    (Block.listOfBare (ruleLines entries)).flatMap Block.definitions =
      entries.map fun (name, body) => ('.' :: name, body) := by
  induction entries with
  | nil => rfl
  | cons e rest ih =>
    have he := h e List.mem_cons_self
    have hline : isBlankText ['\n'] = true := rfl
    rw [ruleLines_cons, he.ruleLine_eq, List.append_assoc, Item.definitions_listOfBare,
      Block.listOfBare_append_of_isBlankText hline,
      ih fun other hother => h other (List.mem_cons_of_mem e hother)]
    show he.rule.definitions ++ _ = _
    rw [he.definitions_rule]
    rfl

/-! ## 3. Stylesheets -/

namespace Sheet

/-- A name that starts with no point has none to lose in the lookup. -/
theorem css?_eq_css?_cons (s : Sheet) {name : Text} (h : name.head? ≠ some '.') :
    s.css? name = s.css? ('.' :: name) := by
  unfold css?
  rw [className_of_head?_ne h]
  rfl

def renderWith (s : Sheet) (textOf : Text → Option Text) : Text :=
  s.names.flatMap fun name => ruleLine name ((textOf name).getD [])

/-- The rules of the classes, each text looked up by the name with its point. -/
def render (s : Sheet) : Text := s.renderWith fun name => s.css? ('.' :: name)

theorem render_eq_ruleLines (s : Sheet) : s.render = ruleLines s.classes := by
  unfold render renderWith ruleLines
  rw [classes_eq_map s, List.flatMap_map]

/-- What has been read keeps the form that survives another reading. -/
theorem ofText_ruleLines {s : Sheet} (hread : ∀ e ∈ s.classes, ReadEntry e.1 e.2)
    (hopen : ∀ e ∈ s.classes, Comment.opensIn e.1 = false ∧ Comment.opensIn e.2 = false) :
    ofText (ruleLines s.classes) = s := by
  have hdefinitions : definitionsOfText (ruleLines s.classes) =
      s.classes.map fun (name, body) => ('.' :: name, body) := by
    unfold definitionsOfText
    rw [← Block.listOfBare_strip, Comment.strip_of_not_opensIn (opensIn_ruleLines hopen),
      definitions_listOfBare_ruleLines hread]
  unfold ofText parse
  rw [hdefinitions]
  exact empty_defineAll_classes s

/-- **A stylesheet that was read can be written back.**  Whatever text it was read from, if no name
and no body of it opens a comment, each of its names has a text when asked for with its point, which
only matters for a name that starts with another one, and reading its rendering gives the same
stylesheet. -/
theorem ofText_render (t : Text) (hopen : ∀ e ∈ (ofText t).classes,
      Comment.opensIn e.1 = false ∧ Comment.opensIn e.2 = false) :
    (∀ name ∈ (ofText t).names, ∃ body, (ofText t).css? ('.' :: name) = some body ∧
        (name.head? ≠ some '.' → (ofText t).css? name = some body)) ∧
      ofText (ofText t).render = ofText t := by
  constructor
  · intro name hname
    obtain ⟨⟨n, body⟩, hmem, rfl⟩ := List.mem_map.1 hname
    have hcss : (ofText t).css? ('.' :: n) = some body := css?_cons_of_mem_classes hmem
    exact ⟨body, hcss, fun hpoint => (css?_eq_css?_cons _ hpoint).trans hcss⟩
  · rw [render_eq_ruleLines]
    exact ofText_ruleLines (fun e he => readEntry_of_mem_classes he) hopen

/-- Among the names are the empty one, one that starts with a point and one that starts with a
blank; a block that is not closed is the last rule. -/
theorem ofText_render_odd_names :
    let t := "..odd, ., . x\x7b color: red \x7d\x7d y\x7b\x7d .z \x7b b".toList
    (ofText t).names = [".odd".toList, [], " x".toList, "z".toList] ∧
      (∀ name ∈ (ofText t).names, ∃ body, (ofText t).css? ('.' :: name) = some body ∧
        (name.head? ≠ some '.' → (ofText t).css? name = some body)) ∧
      ofText (ofText t).render = ofText t := by
  intro t
  have hnames : (ofText t).names = [".odd".toList, [], " x".toList, "z".toList] := by
    decide +kernel
  exact ⟨hnames, ofText_render t (by decide +kernel)⟩

/-- Looked up by the names as they are kept, the texts of names that start with a point are those
of other classes, and the stylesheet is not read back: neither what a name keeps nor what is found
for it stays. -/
theorem ofText_renderWith_css?_ne :
    let s := ofText "...a\x7bx\x7d ..a\x7by\x7d .a\x7bz\x7d".toList
    let again := ofText (s.renderWith s.css?)
    (∀ e ∈ s.classes, Comment.opensIn e.1 = false ∧ Comment.opensIn e.2 = false) ∧
      s.names = ["..a".toList, ".a".toList, "a".toList] ∧
      s.names.map s.css? = [some "y".toList, some "z".toList, some "z".toList] ∧
      again.classes ≠ s.classes ∧ again.css? "..a".toList ≠ s.css? "..a".toList := by
  decide +kernel

end Sheet
end Cascade
