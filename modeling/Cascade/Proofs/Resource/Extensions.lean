import Cascade.Proofs.Text.Trimming
import Cascade.Resource.Source

/-!
# Default extensions

A name without a suffix takes the default extension of its source, and then it has a suffix.
-/

namespace Cascade
open Text

namespace Resource

/-! ## 1. Suffixes -/

/-- Holds for the last component of a name.  The texts between the slashes behind it are empty or
single points, and it is none of these itself. -/
structure IsLastComponent (name component : Text) : Prop where
  stands : ∃ before after, name.splitOn '/' = before ++ component :: after ∧
    ∀ c ∈ after, c = [] ∨ c = ['.']
  ne_nil : component ≠ []
  ne_point : component ≠ ['.']

def HasSuffix (name : Text) : Prop :=
  ∃ component, IsLastComponent name component ∧
    ∃ stem suffix, component = stem ++ '.' :: suffix ∧ '.' ∉ suffix ∧ stem ≠ [] ∧ suffix ≠ []

theorem eq_of_reverse_eq_append_cons {α : Type} {l before after : List α} {a : α}
    (h : l.reverse = after ++ a :: before) : l = before.reverse ++ a :: after.reverse := by
  rw [List.reverse_eq_iff, List.reverse_append, List.reverse_cons, List.append_assoc,
    List.singleton_append] at h
  exact h

/-- The last component of a path is that of its text. -/
theorem getLast?_ofText_eq_some_iff {name component : Text} :
    (Path.ofText name).components.getLast? = some component ↔ IsLastComponent name component := by
  unfold Path.ofText
  rw [List.getLast?_filter, List.find?_eq_some_iff_append]
  -- The search runs from the back, where it passes over what stands for nothing.
  constructor
  · rintro ⟨hcomponent, after, before, hsplit, hafter⟩
    obtain ⟨hne, hpoint⟩ := Bool.and_eq_true_iff.1 hcomponent
    refine ⟨⟨before.reverse, after.reverse, eq_of_reverse_eq_append_cons hsplit, ?_⟩,
      of_decide_eq_true hne, of_decide_eq_true hpoint⟩
    intro c hc
    have hpassed := hafter c (List.mem_reverse.1 hc)
    by_cases hnil : c = []
    · exact Or.inl hnil
    · exact Or.inr (by simpa [hnil] using hpassed)
  · rintro ⟨⟨before, after, hsplit, hafter⟩, hne, hpoint⟩
    refine ⟨by simp [hne, hpoint], after.reverse, before.reverse, by simp [hsplit], ?_⟩
    intro c hc
    rcases hafter c (List.mem_reverse.1 hc) with rfl | rfl
    · rfl
    · rfl

/-- The point that counts is the last one of the component. -/
theorem componentHasExtension_iff {component : Text} :
    componentHasExtension component = true ↔
      ∃ stem suffix, component = stem ++ '.' :: suffix ∧ '.' ∉ suffix ∧ stem ≠ [] ∧
        suffix ≠ [] := by
  unfold componentHasExtension
  constructor
  · intro h
    split at h
    · rename_i after before hbreak
      obtain ⟨hcomponent, hafter⟩ := breakOn_eq_some_iff.1 hbreak
      refine ⟨before.reverse, after.reverse, eq_of_reverse_eq_append_cons hcomponent,
        mt List.mem_reverse.1 hafter, ?_⟩
      simpa [and_comm] using h
    · exact absurd h (by decide)
  · rintro ⟨stem, suffix, rfl, hpoint, hstem, hsuffix⟩
    have hbreak : breakOn '.' (stem ++ '.' :: suffix).reverse =
        some (suffix.reverse, stem.reverse) :=
      breakOn_eq_some_iff.2 ⟨by simp, mt List.mem_reverse.1 hpoint⟩
    rw [hbreak]
    simp [hstem, hsuffix]

theorem hasExtension_iff {name : Text} : hasExtension name = true ↔ HasSuffix name := by
  unfold hasExtension HasSuffix
  simp only [Option.any_eq_true, getLast?_ofText_eq_some_iff, componentHasExtension_iff]

/-- To exactly the names with a suffix nothing is added. -/
theorem withExtension_eq_self_iff {extension name : Text} :
    withExtension extension name = name ↔ HasSuffix name := by
  rw [← hasExtension_iff]
  unfold withExtension
  split
  · rename_i h
    exact iff_of_true rfl h
  · rename_i h
    refine iff_of_false ?_ h
    intro hsame
    have hlength := congrArg List.length hsame
    rw [List.length_append, List.length_cons] at hlength
    omega

/-! ## 2. The extension in the last component -/

/-- A text that does not end in a separator does not end in an empty piece. -/
theorem getLast?_splitOn_ne {sep : Char} {t : Text} (hne : t ≠ []) (hlast : t.getLast? ≠ some sep) :
    (t.splitOn sep).getLast? ≠ some [] := by
  induction t with
  | nil => exact absurd rfl hne
  | cons c rest ih =>
    by_cases hc : c = sep
    · subst hc
      cases rest with
      | nil => exact absurd rfl hlast
      | cons d others =>
        rw [splitOn_cons_self, List.getLast?_cons_of_ne_nil (List.splitOn_ne_nil c (d :: others))]
        exact ih (List.cons_ne_nil d others) (by simpa using hlast)
    · obtain ⟨piece, pieces, hrest, hcons⟩ := splitOn_cons_ne hc rest
      rw [hcons]
      -- The first piece is longer by a character; a last piece behind it is that of the rest.
      cases pieces with
      | nil => simp
      | cons next others =>
        cases rest with
        | nil => exact absurd hrest (by simp [List.splitOn_nil])
        | cons d t =>
          have hmore := ih (List.cons_ne_nil d t) (by simpa using hlast)
          rw [hrest] at hmore
          simpa using hmore

theorem exists_last_point {t : Text} (h : '.' ∈ t) :
    ∃ before after, t = before ++ '.' :: after ∧ '.' ∉ after := by
  obtain ⟨after, before, ht, hafter⟩ := List.eq_append_cons_of_mem (List.mem_reverse.2 h)
  exact ⟨before.reverse, after.reverse, eq_of_reverse_eq_append_cons ht,
    mt List.mem_reverse.1 hafter⟩

section
variable {extension name : Text}

/-- What is written behind a name ends up in its last component. -/
theorem hasSuffix_append (hne : extension ≠ []) (hslash : '/' ∉ extension)
    (hpoint : extension.getLast? ≠ some '.') (hname : name ≠ [])
    (hend : name.getLast? ≠ some '/') : HasSuffix (name ++ '.' :: extension) := by
  -- The extension has no slash, so the name is cut as before but for its last piece.
  have hmem : '/' ∉ '.' :: extension := by simp [hslash]
  obtain ⟨pieces, last, hsplit, hsplit'⟩ := exists_splitOn_append_right hmem name
  have hlast : last ≠ [] := by
    rintro rfl
    apply getLast?_splitOn_ne hname hend
    rw [hsplit, List.getLast?_concat]
  refine ⟨last ++ '.' :: extension, ⟨⟨pieces, [], hsplit', by simp⟩, by simp, ?_⟩, ?_⟩
  · intro heq
    have hlength := congrArg List.length heq
    have hpos := List.length_pos_iff.2 hlast
    rw [List.length_append, List.length_cons, List.length_singleton] at hlength
    omega
  · -- The extension may have points itself, so the last point is sought for.
    obtain ⟨before, after, hextension, hafter⟩ :=
      exists_last_point (List.mem_cons_self : '.' ∈ '.' :: extension)
    refine ⟨last ++ before, after, by rw [hextension, List.append_assoc], hafter, by simp [hlast],
      ?_⟩
    rintro rfl
    have hlast' : ('.' :: extension).getLast? = some '.' := by
      rw [hextension, List.getLast?_concat]
    rw [List.getLast?_cons_of_ne_nil hne] at hlast'
    exact hpoint hlast'

theorem hasSuffix_withExtension (hne : extension ≠ []) (hslash : '/' ∉ extension)
    (hpoint : extension.getLast? ≠ some '.') (hname : name ≠ [])
    (hend : name.getLast? ≠ some '/') : HasSuffix (withExtension extension name) := by
  unfold withExtension
  split
  · rename_i h
    exact hasExtension_iff.1 h
  · exact hasSuffix_append hne hslash hpoint hname hend

end

end Resource

/-! ## 3. Sources -/

namespace TextSource
open Resource

def extension : TextSource → Text
  | mapping _ extension => extension
  | directory _ _ extension => extension

/-- What a source answers for a name as it stands. -/
def lookUp : TextSource → Text → Except EmbeddedNul (Option Text × List Record)
  | mapping texts _, name => .ok (texts.lookup name, [])
  | directory files root _, name =>
    let path := (Path.ofText root).join (Path.ofText name)
    if path.text.contains '\x00' then .error .embeddedNul
    else
      match readFile files path with
      | .ok t => .ok (some t, [])
      | .error fault => .ok (none, [.unreadableFile path fault])

/-- A source looks a name up with its extension. -/
theorem read_eq_lookUp (source : TextSource) (name : Text) :
    source.read name = source.lookUp (withExtension source.extension name) := by
  cases source with
  | mapping texts extension => rfl
  | directory files root extension => rfl

/-- **A default extension is added once.**  Let it not be empty, have no slash and not end in a
point.  Adding it to a name that is not empty and does not end in a slash gives a name to which
nothing more is added, and a source gives the same answer for both names.  It is exactly the names
with a suffix to which nothing is added, and a source looks these up as they stand. -/
theorem read_withExtension (source : TextSource) (hne : source.extension ≠ [])
    (hslash : '/' ∉ source.extension) (hpoint : source.extension.getLast? ≠ some '.') :
    (∀ name, name ≠ [] → name.getLast? ≠ some '/' →
        withExtension source.extension (withExtension source.extension name) =
            withExtension source.extension name ∧
          source.read (withExtension source.extension name) = source.read name) ∧
      ∀ name, (withExtension source.extension name = name ↔ HasSuffix name) ∧
        (HasSuffix name → source.read name = source.lookUp name) := by
  constructor
  · intro name hname hend
    have hstable : withExtension source.extension (withExtension source.extension name) =
        withExtension source.extension name :=
      withExtension_eq_self_iff.2 (hasSuffix_withExtension hne hslash hpoint hname hend)
    refine ⟨hstable, ?_⟩
    rw [read_eq_lookUp, read_eq_lookUp, hstable]
  · intro name
    refine ⟨withExtension_eq_self_iff, ?_⟩
    intro hsuffix
    rw [read_eq_lookUp, withExtension_eq_self_iff.2 hsuffix]

/-- The extension has a point itself, the component before the last one has a suffix, and the name
ends in a point; a name with a suffix keeps the slash and the points behind it.  A name that starts
at a root is looked up there and not below the directory. -/
theorem read_withExtension_inner_points :
    let texts := [("x.d/y..min.css".toList, "t".toList), ("z.css/./".toList, "u".toList)]
    let source := mapping texts "min.css".toList
    let files : FileSystem := fun p =>
      if p = ⟨.root, ["x.d".toList, "y..min.css".toList]⟩ then .file [0x74] else .missing
    let below := directory files "below".toList "min.css".toList
    source.read "x.d/y.".toList = .ok (some "t".toList, []) ∧
      source.read "x.d/y..min.css".toList = .ok (some "t".toList, []) ∧
      HasSuffix "z.css/./".toList ∧
      source.read "z.css/./".toList = .ok (some "u".toList, []) ∧
      below.read "/x.d/y.".toList = .ok (some "t".toList, []) ∧
      below.read "/x.d/y..min.css".toList = .ok (some "t".toList, []) := by
  intro texts source files below
  have hread : source.read "x.d/y.".toList = .ok (some "t".toList, []) := rfl
  obtain ⟨hstable, hsuffix⟩ := read_withExtension source (by decide : "min.css".toList ≠ [])
    (by decide : '/' ∉ "min.css".toList) (by decide : "min.css".toList.getLast? ≠ some '.')
  obtain ⟨-, hagain⟩ := hstable "x.d/y.".toList (by decide) (by decide)
  obtain ⟨hiff, hlookUp⟩ := hsuffix "z.css/./".toList
  have hz : HasSuffix "z.css/./".toList := hiff.1 rfl
  have hbelow : below.read "/x.d/y.".toList = .ok (some "t".toList, []) := rfl
  obtain ⟨hstable', -⟩ := read_withExtension below (by decide : "min.css".toList ≠ [])
    (by decide : '/' ∉ "min.css".toList) (by decide : "min.css".toList.getLast? ≠ some '.')
  obtain ⟨-, hagain'⟩ := hstable' "/x.d/y.".toList (by decide) (by decide)
  exact ⟨hread, hagain.trans hread, hz, hlookUp hz, hbelow, hagain'.trans hbelow⟩

/-- Some point between two other characters is not enough: behind it there must not be another one
at the end.  With one the name takes the extension, and its text is not found. -/
theorem read_ne_lookUp_of_last_point :
    let name := "a.b.".toList
    let source := mapping [(name, "x".toList)] "css".toList
    (source.extension ≠ [] ∧ '/' ∉ source.extension ∧ source.extension.getLast? ≠ some '.') ∧
      IsLastComponent name name ∧
      (∃ stem rest, name = stem ++ '.' :: rest ∧ stem ≠ [] ∧ rest ≠ []) ∧
      withExtension source.extension name ≠ name ∧
      source.lookUp name = .ok (some "x".toList, []) ∧ source.read name = .ok (none, []) := by
  intro name source
  have hlast : IsLastComponent name name :=
    ⟨⟨[], [], rfl, by simp⟩, by decide, by decide⟩
  exact ⟨by decide, hlast, ⟨"a".toList, "b.".toList, rfl, by decide, by decide⟩, by decide, rfl,
    rfl⟩

end TextSource
end Cascade
