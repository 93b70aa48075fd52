import Cascade.Proofs.Text.Utf8
import Cascade.Resource.Source

/-!
# Texts that are stored in a directory

A directory whose files are the texts of a mapping, each under its name, supplies them as the
mapping does, up to their line ends.
-/

namespace Cascade
open Text

namespace Resource

/-! ## 1. File names -/

structure IsFileName (name : Text) : Prop where
  ne_nil : name ≠ []
  ne_point : name ≠ ['.']
  ne_parent : name ≠ parentName
  no_slash : '/' ∉ name
  no_nul : '\x00' ∉ name

theorem Anchor.ofText_eq_working_iff {t : Text} : ofText t = .working ↔ t.head? ≠ some '/' := by
  unfold ofText
  split
  · simp
  · simp
  · simp
  · rename_i hslash
    cases t with
    | nil => simp
    | cons c rest =>
      have hc : c ≠ '/' := fun h => hslash rest (h ▸ rfl)
      simp [hc]

namespace Path

theorem join_of_anchor_eq {p q : Path} (h : q.anchor = .working) :
    p.join q = ⟨p.anchor, p.components ++ q.components⟩ := by
  unfold join
  rw [h]

/-- A path from a root is not changed by what it is joined to. -/
theorem join_of_anchor_ne {p q : Path} (h : q.anchor ≠ .working) : p.join q = q := by
  unfold join
  split
  · rename_i hworking
    exact absurd hworking h
  · rfl

/-- The name of a file is a path of one component. -/
theorem ofText_of_isFileName {name : Text} (h : IsFileName name) :
    ofText name = ⟨.working, [name]⟩ := by
  have hanchor : Anchor.ofText name = .working :=
    Anchor.ofText_eq_working_iff.2 fun hslash => h.no_slash (List.mem_of_mem_head? hslash)
  unfold ofText
  rw [hanchor, List.splitOn_eq_singleton h.no_slash,
    List.filter_cons_of_pos (by simp [h.ne_nil, h.ne_point]), List.filter_nil]

theorem join_of_isFileName (p : Path) {name : Text} (h : IsFileName name) :
    p.join (ofText name) = ⟨p.anchor, p.components ++ [name]⟩ := by
  rw [ofText_of_isFileName h, join_of_anchor_eq rfl]

/-- What an anchor writes are slashes, and the single point of the empty path is no NUL either. -/
theorem nul_mem_text_iff {p : Path} : '\x00' ∈ p.text ↔ ∃ c ∈ p.components, '\x00' ∈ c := by
  have hanchor : '\x00' ∉ p.anchor.text := by cases p.anchor <;> decide
  rw [← mem_intercalate_iff (by decide : '\x00' ∉ ['/'])]
  unfold text
  split
  · rename_i h
    rw [(List.append_eq_nil_iff.1 h).2]
    decide
  · rw [List.mem_append, or_iff_right hanchor]

/-- A component with a NUL character is neither empty nor a point, so it stays. -/
theorem nul_mem_ofText_iff {t : Text} :
    (∃ c ∈ (ofText t).components, '\x00' ∈ c) ↔ '\x00' ∈ t := by
  constructor
  · rintro ⟨c, hc, hnul⟩
    exact mem_of_mem_splitOn (List.mem_filter.1 hc).1 hnul
  · intro h
    rw [← (List.intercalate_splitOn '/' : List.intercalate ['/'] (t.splitOn '/') = t),
      mem_intercalate_iff (by decide)] at h
    obtain ⟨c, hc, hnul⟩ := h
    refine ⟨c, List.mem_filter.2 ⟨hc, ?_⟩, hnul⟩
    have hne : c ≠ [] ∧ c ≠ ['.'] := by
      constructor <;> rintro rfl <;> exact absurd hnul (by decide)
    simp [hne]

/-- The NUL characters of a path that another one replaces do not count. -/
theorem nul_mem_text_join_iff {t u : Text} :
    '\x00' ∈ ((ofText t).join (ofText u)).text ↔
      '\x00' ∈ u ∨ u.head? ≠ some '/' ∧ '\x00' ∈ t := by
  rw [nul_mem_text_iff, ← Anchor.ofText_eq_working_iff]
  by_cases hanchor : Anchor.ofText u = .working
  · have hmem : '\x00' ∈ u ∨ '\x00' ∈ t ↔
        (∃ c ∈ (ofText u).components, '\x00' ∈ c) ∨ ∃ c ∈ (ofText t).components, '\x00' ∈ c :=
      or_congr nul_mem_ofText_iff.symm nul_mem_ofText_iff.symm
    rw [join_of_anchor_eq hanchor, and_iff_right hanchor, hmem, or_comm]
    simp only [List.mem_append, or_and_right, exists_or]
  · rw [join_of_anchor_ne hanchor, nul_mem_ofText_iff]
    simp [hanchor]

end Path

theorem isFileName_of_hasExtension {name : Text} (h : hasExtension name = true)
    (hslash : '/' ∉ name) (hnul : '\x00' ∉ name) : IsFileName name where
  ne_nil := by
    rintro rfl
    exact absurd h (by decide)
  ne_point := by
    rintro rfl
    exact absurd h (by decide)
  ne_parent := by
    rintro rfl
    exact absurd h (by decide)
  no_slash := hslash
  no_nul := hnul

section
variable {extension name : Text}

theorem isFileName_append_extension (hne : extension ≠ []) (hpoint : extension ≠ ['.'])
    (hslash : '/' ∉ name ++ '.' :: extension) (hnul : '\x00' ∉ name ++ '.' :: extension) :
    IsFileName (name ++ '.' :: extension) where
  ne_nil := by simp
  ne_point := by
    intro h
    have hlength := congrArg List.length h
    have hpos := List.length_pos_iff.2 hne
    simp at hlength
    omega
  ne_parent := by
    -- Two points are the point of the extension and either the name or the extension.
    intro h
    cases name with
    | nil => exact hpoint (List.cons.inj h).2
    | cons c rest =>
      have hlength := congrArg List.length h
      have hpos := List.length_pos_iff.2 hne
      simp [parentName] at hlength
      omega
  no_slash := hslash
  no_nul := hnul

/-- With its extension a name is no name that a path gives a meaning of its own. -/
theorem isFileName_withExtension (hne : extension ≠ []) (hpoint : extension ≠ ['.'])
    (hextension : '/' ∉ extension ∧ '\x00' ∉ extension) (hname : '/' ∉ name ∧ '\x00' ∉ name) :
    IsFileName (withExtension extension name) := by
  unfold withExtension
  split
  · rename_i h
    exact isFileName_of_hasExtension h hname.1 hname.2
  · apply isFileName_append_extension hne hpoint
    · simp [hname.1, hextension.1]
    · simp [hname.2, hextension.2]

end

/-! ## 2. Directories of stored texts -/

def storedEntry : Option Text → Entry
  | some t => .file (Utf8.encode t)
  | none => .missing

/-- A directory has the texts of a mapping as its files, each under its name, and no other files. -/
def Stores (files : FileSystem) (root : Text) (texts : List (Text × Text)) : Prop :=
  ∀ name, IsFileName name →
    files ((Path.ofText root).join (Path.ofText name)) = storedEntry (texts.lookup name)

namespace FileTree

def ofTexts (root : List Text) (texts : List (Text × Text)) : FileTree :=
  ⟨texts.map fun (name, t) => (root ++ [name], Utf8.encode t)⟩

theorem lookup_ofTexts (root : List Text) (texts : List (Text × Text)) (name : Text) :
    (ofTexts root texts).files.lookup (root ++ [name]) = (texts.lookup name).map Utf8.encode := by
  unfold ofTexts
  induction texts with
  | nil => rfl
  | cons entry rest ih =>
    obtain ⟨n, t⟩ := entry
    rw [List.map_cons, List.lookup_cons, List.lookup_cons]
    by_cases h : name = n
    · rw [h, beq_self_eq_true, beq_self_eq_true]
      rfl
    · have hpath : root ++ [name] ≠ root ++ [n] := by simp [h]
      rw [beq_false_of_ne h, beq_false_of_ne hpath]
      exact ih

/-- Under a name the directory has the text that the mapping has. -/
theorem entryAt_file (root : List Text) (texts : List (Text × Text)) (name : Text) :
    (ofTexts root texts).entryAt (root ++ [name]) = storedEntry (texts.lookup name) := by
  unfold entryAt
  rw [lookup_ofTexts]
  cases hlookup : texts.lookup name with
  | some t => rfl
  | none =>
    -- A path that continues this one is the path itself, and the name has no file.
    refine if_neg ?_
    rw [List.any_eq_true]
    rintro ⟨⟨q, bytes⟩, hmem, hprefix⟩
    obtain ⟨⟨n, t⟩, hentry, heq⟩ := List.mem_map.1 hmem
    obtain ⟨rfl, -⟩ := Prod.mk.inj heq
    dsimp only at hprefix
    rw [List.isPrefixOf_iff_prefix, List.prefix_append_right_inj] at hprefix
    have hname : name = n := by simpa using hprefix
    have hne := List.lookup_eq_none_iff.1 hlookup (n, t) hentry
    simp [hname] at hne

/-- On the way down to its files the tree has directories, and nothing if there are no files. -/
theorem entryAt_above {root p : List Text} (h : p <+: root) (texts : List (Text × Text)) :
    (ofTexts root texts).entryAt p = if texts.isEmpty then .missing else .directory := by
  obtain ⟨below, rfl⟩ := h
  have hnone : (ofTexts (p ++ below) texts).files.lookup p = none := by
    rw [List.lookup_eq_none_iff]
    rintro ⟨q, bytes⟩ hmem
    obtain ⟨⟨n, t⟩, -, heq⟩ := List.mem_map.1 hmem
    obtain ⟨rfl, -⟩ := Prod.mk.inj heq
    simp
  unfold entryAt
  rw [hnone]
  cases texts with
  | nil => rfl
  | cons entry rest =>
    -- The path of the first file, like that of any other, goes on from this one.
    simp [ofTexts]

/-- Walking down to the directory and on to a name leads to what is stored there. -/
theorem walk_ofTexts (before rest : List Text) (hparent : parentName ∉ rest) {name : Text}
    (hname : name ≠ parentName) (texts : List (Text × Text)) :
    (ofTexts (before ++ rest) texts).walk (.inside before) (rest ++ [name]) =
      storedEntry (texts.lookup name) := by
  -- On the way that is left, for every directory that it starts from.
  induction rest generalizing before with
  | nil =>
    rw [List.append_nil, List.nil_append, walk, if_neg hname, entryAt_file]
    cases texts.lookup name with
    | some t => rfl
    | none => rfl
  | cons c rest ih =>
    rw [List.mem_cons, not_or] at hparent
    have hroot : before ++ c :: rest = before ++ [c] ++ rest := by
      rw [List.append_assoc, List.singleton_append]
    rw [List.cons_append, walk, if_neg (Ne.symm hparent.1), hroot,
      entryAt_above (List.prefix_append (before ++ [c]) rest)]
    cases texts with
    | nil => rfl
    | cons entry others => exact ih (before ++ [c]) hparent.2

end FileTree

/-- Every mapping can be stored, below any directory that is not reached through a parent. -/
theorem stores_ofTexts {root : Text} (hanchor : (Path.ofText root).anchor = .working)
    (hparent : parentName ∉ (Path.ofText root).components) (texts : List (Text × Text)) :
    Stores (FileTree.ofTexts (Path.ofText root).components texts).fileSystem root texts := by
  intro name hname
  unfold FileTree.fileSystem
  rw [Path.join_of_isFileName _ hname, hanchor]
  exact FileTree.walk_ofTexts [] _ hparent hname.ne_parent texts

/-! ## 3. Line ends -/

def joinLineEnds : Text → Text
  | [] => []
  | '\r' :: '\n' :: rest => '\n' :: joinLineEnds rest
  | c :: rest => c :: joinLineEnds rest

/-- A text with every pair of carriage return and line feed, and then every carriage return that is
left, turned into a line feed. -/
def withLineFeeds (t : Text) : Text := (joinLineEnds t).map fun c => if c = '\r' then '\n' else c

/-- It makes no difference whether the pairs are joined first or on the way. -/
theorem unifyLineEnds_eq_withLineFeeds (t : Text) : unifyLineEnds t = withLineFeeds t := by
  unfold withLineFeeds
  fun_induction unifyLineEnds t with
  | case1 => rfl
  | case2 rest ih =>
    rw [ih]
    rfl
  | case3 rest hnext ih =>
    have hjoin : joinLineEnds ('\r' :: rest) = '\r' :: joinLineEnds rest := by
      rw [joinLineEnds]
      exact fun after _ hafter => hnext after hafter
    rw [ih, hjoin]
    rfl
  | case4 c rest hpair hreturn ih =>
    have hjoin : joinLineEnds (c :: rest) = c :: joinLineEnds rest := by
      rw [joinLineEnds]
      exact hpair
    rw [ih, hjoin, List.map_cons, if_neg hreturn]

/-- A text that was encoded is decoded, and only its line ends are changed. -/
theorem decodeFile_encode (t : Text) : decodeFile (Utf8.encode t) = .ok (withLineFeeds t) := by
  unfold decodeFile
  rw [Utf8.decode_encode]
  exact congrArg Except.ok (unifyLineEnds_eq_withLineFeeds t)

end Resource

/-! ## 4. The two sources -/

namespace TextSource
open Resource

section
variable {root extension name : Text}

/-- **A directory supplies what is stored in it.**  If the files of a directory are the texts of a
mapping, then for every name of a file the directory has a text exactly when the mapping has one,
and it is that text with line feeds for all its line ends.  A name without a text is reported. -/
theorem read_directory_eq_map_read_mapping {files : FileSystem} {texts : List (Text × Text)}
    (hroot : '\x00' ∉ root) (hne : extension ≠ []) (hpoint : extension ≠ ['.'])
    (hextension : '/' ∉ extension ∧ '\x00' ∉ extension) (hname : '/' ∉ name ∧ '\x00' ∉ name)
    (hstores : Stores files root texts) :
    ∃ found, (mapping texts extension).read name = .ok (found, []) ∧
      (directory files root extension).read name = .ok (found.map withLineFeeds,
        if found.isSome then []
        else [.unreadableFile (pathOf root extension name) .missing]) := by
  have hfile := isFileName_withExtension hne hpoint hextension hname
  have hnul : (pathOf root extension name).text.contains '\x00' = false := by
    rw [← Bool.not_eq_true, List.contains_iff_mem, pathOf, Path.nul_mem_text_join_iff]
    simp [hroot, hfile.no_nul]
  -- The path ends in the name of a file, under which the texts are stored.
  have hentry : files (pathOf root extension name) = _ := hstores _ hfile
  refine ⟨texts.lookup (withExtension extension name), rfl, ?_⟩
  unfold read readFile
  dsimp only
  rw [hnul, hentry]
  cases texts.lookup (withExtension extension name) with
  | some t =>
    unfold storedEntry
    dsimp only
    rw [decodeFile_encode]
    rfl
  | none => rfl

end

/-- The name ends in a point, so the extension comes after it, and the line ends of the text are of
all three kinds. -/
theorem read_directory_mixed_line_ends :
    let texts := [("a..css".toList, "\r\n\r\r\nβ\n".toList), (".css".toList, "b".toList)]
    let files := (FileTree.ofTexts (Path.ofText "./theme/".toList).components texts).fileSystem
    Stores files "./theme/".toList texts ∧
      (directory files "./theme/".toList "css".toList).read "a.".toList =
        .ok (some "\n\n\nβ\n".toList, []) := by
  intro texts files
  have hstores : Stores files "./theme/".toList texts :=
    stores_ofTexts (rfl : (Path.ofText "./theme/".toList).anchor = .working) (by decide) texts
  refine ⟨hstores, ?_⟩
  obtain ⟨found, hmapping, hdirectory⟩ := read_directory_eq_map_read_mapping
    (by decide : '\x00' ∉ "./theme/".toList) (by decide : "css".toList ≠ []) (by decide)
    (by decide) (by decide : '/' ∉ "a.".toList ∧ '\x00' ∉ "a.".toList) hstores
  have hfound : (some "\r\n\r\r\nβ\n".toList, []) = (found, []) := Except.ok.inj hmapping
  rw [hdirectory, ← (Prod.mk.inj hfound).1]
  rfl

end TextSource
end Cascade
