import Cascade.Proofs.Resource.StoredTexts
import Cascade.Proofs.Sheet.History

/-!
# Files that cannot be read

That there is no file, or no text in it, is an answer.  Of paths in Unicode scalar values only those
with a NUL character get none.
-/

namespace Cascade
open Text

namespace Resource

/-! ## 1. Texts of files -/

def IsTextAt (files : FileSystem) (path : Path) (t : Text) : Prop :=
  ∃ bytes stored, files path = .file bytes ∧ Utf8.decode bytes = .ok stored ∧
    withLineFeeds stored = t

theorem decodeFile_eq_ok_iff {bytes : List UInt8} {t : Text} :
    decodeFile bytes = .ok t ↔ ∃ stored, Utf8.decode bytes = .ok stored ∧
      withLineFeeds stored = t := by
  unfold decodeFile
  cases Utf8.decode bytes with
  | ok stored => simp [unifyLineEnds_eq_withLineFeeds]
  | error refusal => simp

/-- A file is read if its bytes are UTF-8. -/
theorem readFile_eq_ok_iff {files : FileSystem} {path : Path} {t : Text} :
    readFile files path = .ok t ↔ IsTextAt files path t := by
  unfold readFile IsTextAt
  cases files path with
  | file bytes => simp [decodeFile_eq_ok_iff]
  | directory | missing | throughFile => simp

/-! ## 2. Paths with a NUL character -/

/-- The default extension comes behind a name, so it does not turn it into one from a root. -/
theorem head?_withExtension_eq_slash_iff {extension name : Text} :
    (withExtension extension name).head? = some '/' ↔ name.head? = some '/' := by
  unfold withExtension
  split
  · rfl
  · cases name with
    | nil => simp
    | cons c rest => rfl

theorem nul_mem_withExtension {extension name : Text} (h : '\x00' ∈ name) :
    '\x00' ∈ withExtension extension name := by
  unfold withExtension
  split
  · exact h
  · exact List.mem_append_left _ h

end Resource

namespace TextSource
open Resource

/-- A NUL character in the root counts only if the name keeps the root. -/
theorem nul_mem_text_pathOf_iff {root extension name : Text} :
    '\x00' ∈ (pathOf root extension name).text ↔
      '\x00' ∈ withExtension extension name ∨ name.head? ≠ some '/' ∧ '\x00' ∈ root := by
  unfold pathOf
  rw [Path.nul_mem_text_join_iff, ne_eq, head?_withExtension_eq_slash_iff]

/-! ## 3. Answers -/

section
variable {files : FileSystem} {root extension name : Text}

/-- The path is refused before anything is looked for. -/
theorem read_directory_of_nul_mem (h : '\x00' ∈ (pathOf root extension name).text) :
    (directory files root extension).read name = .error .embeddedNul := by
  unfold read
  dsimp only
  rw [if_pos (List.contains_iff_mem.2 h)]

theorem read_directory_of_readFile_ok {t : Text}
    (h : '\x00' ∉ (pathOf root extension name).text)
    (hfile : readFile files (pathOf root extension name) = .ok t) :
    (directory files root extension).read name = .ok (some t, []) := by
  unfold read
  simp only [if_neg (mt List.contains_iff_mem.1 h), hfile]

theorem read_directory_of_readFile_error {fault : Fault}
    (h : '\x00' ∉ (pathOf root extension name).text)
    (hfile : readFile files (pathOf root extension name) = .error fault) :
    (directory files root extension).read name =
      .ok (none, [.unreadableFile (pathOf root extension name) fault]) := by
  unfold read
  simp only [if_neg (mt List.contains_iff_mem.1 h), hfile]

end

/-- **A directory refuses a path with a NUL character and answers every other one.**  Names, roots
and extensions are texts of Unicode scalar values.  The path has a NUL character if the name has one
with its extension, or if the root has one and the name does not start at a root itself.  Any other
path is answered, by the text of its file if there is a file and its bytes are UTF-8, and else by no
text and one debug record of the reason.  So a stylesheet is either loaded or reports that it was
not, and unless it is loaded it stays as it was. -/
theorem read_directory_refused_or_answered (α : Type) (files : FileSystem)
    (root extension name : Text) (s : Sheet) :
    let source := directory files root extension
    let path := pathOf root extension name
    let loaded := s.perform (.load name source : Operation α)
    ('\x00' ∈ name → '\x00' ∈ path.text) ∧
    ('\x00' ∈ path.text ↔
      '\x00' ∈ withExtension extension name ∨ name.head? ≠ some '/' ∧ '\x00' ∈ root) ∧
    ('\x00' ∈ path.text →
      source.read name = .error .embeddedNul ∧ loaded = (s, .refused .embeddedNul)) ∧
    ('\x00' ∉ path.text →
      (∃ t, IsTextAt files path t ∧ source.read name = .ok (some t, []) ∧
        loaded = (s.parse t, .loaded true)) ∨
      (¬ ∃ t, IsTextAt files path t) ∧ ∃ fault,
        (Record.unreadableFile path fault).level = .debug ∧
        source.read name = .ok (none, [.unreadableFile path fault]) ∧
        s.load name source = .ok (none, [.unreadableFile path fault, .resourceNotLoaded name]) ∧
        loaded = (s, .loaded false)) := by
  intro source path loaded
  have hloaded : loaded = _ := s.perform_load name source
  refine ⟨?_, nul_mem_text_pathOf_iff, ?_, ?_⟩
  · intro h
    exact nul_mem_text_pathOf_iff.2 (Or.inl (nul_mem_withExtension h))
  · intro h
    have hread : source.read name = .error .embeddedNul := read_directory_of_nul_mem h
    rw [hread] at hloaded
    exact ⟨hread, hloaded⟩
  · intro h
    -- The path is tried, and what the file system finds decides.
    cases hfile : readFile files path with
    | ok t =>
      have hread : source.read name = _ := read_directory_of_readFile_ok h hfile
      rw [hread] at hloaded
      exact Or.inl ⟨t, readFile_eq_ok_iff.1 hfile, hread, hloaded⟩
    | error fault =>
      have hread : source.read name = _ := read_directory_of_readFile_error h hfile
      rw [hread] at hloaded
      refine Or.inr ⟨?_, fault, rfl, hread, ?_, hloaded⟩
      · rintro ⟨t, ht⟩
        rw [readFile_eq_ok_iff.2 ht] at hfile
        cases hfile
      · unfold Sheet.load
        rw [hread]
        rfl

/-- A file with a carriage return, a file whose bytes are no text, a directory, a path through a
file, a missing file, a name with a NUL character, and a name that starts at a root and so is free
of the NUL character in the root of its source. -/
theorem read_directory_of_faulty_files :
    let tree : FileTree := ⟨[(["t".toList, "good.css".toList], [0x61, 0x7B, 0x62, 0x7D, 0x0D]),
      (["t".toList, "bad.css".toList], [0x61, 0xFF]),
      (["t".toList, "dir.css".toList, "x.css".toList], [])]⟩
    let source := directory tree.fileSystem "t".toList "css".toList
    let s := Sheet.empty.define "a".toList "x".toList
    let load (name : Text) : Sheet × Answer := s.perform (.load name source : Operation Unit)
    let nulRoot := directory tree.fileSystem "\x00".toList "css".toList
    source.read "good".toList = .ok (some "a\x7bb\x7d\n".toList, []) ∧
      load "good".toList = (s.parse "a\x7bb\x7d\n".toList, .loaded true) ∧
      (∀ name ∈ ["bad", "dir", "good.css/x.css", "none", ""].map String.toList,
        ∃ fault, source.read name =
            .ok (none, [.unreadableFile (pathOf "t".toList "css".toList name) fault]) ∧
          load name = (s, .loaded false)) ∧
      source.read "a\x00".toList = .error .embeddedNul ∧
      load "a\x00".toList = (s, .refused .embeddedNul) ∧
      nulRoot.read "good".toList = .error .embeddedNul ∧
      ∃ fault, nulRoot.read "/t/good".toList = .ok (none,
        [.unreadableFile ⟨.root, ["t".toList, "good.css".toList]⟩ fault]) := by
  intro tree source s load nulRoot
  have hgood : source.read "good".toList = .ok (some "a\x7bb\x7d\n".toList, []) := rfl
  have hothers : ∀ name ∈ ["bad", "dir", "good.css/x.css", "none", ""].map String.toList,
      '\x00' ∉ (pathOf "t".toList "css".toList name).text ∧
        (source.read name).toOption.map (·.1) = some none := by
    decide +kernel
  have hanswer := read_directory_refused_or_answered Unit tree.fileSystem
  -- Of the two answers to a path without a NUL character only the second has no text.
  have hmissing (root name : Text) (hnul : '\x00' ∉ (pathOf root "css".toList name).text)
      (hnone : ((directory tree.fileSystem root "css".toList).read name).toOption.map (·.1) =
        some none) :
      ∃ fault, (directory tree.fileSystem root "css".toList).read name =
          .ok (none, [.unreadableFile (pathOf root "css".toList name) fault]) ∧
        s.perform (.load name (directory tree.fileSystem root "css".toList) : Operation Unit) =
          (s, .loaded false) := by
    obtain ⟨-, -, -, hfound⟩ := hanswer root "css".toList name s
    rcases hfound hnul with ⟨t, -, hread, -⟩ | ⟨-, fault, -, hread, -, hload⟩
    · rw [hread] at hnone
      cases hnone
    · exact ⟨fault, hread, hload⟩
  refine ⟨hgood, ?_, ?_, ?_⟩
  · obtain ⟨-, -, -, hfound⟩ := hanswer "t".toList "css".toList "good".toList s
    rcases hfound (by decide) with ⟨t, -, hread, hload⟩ | ⟨-, fault, -, hread, -⟩
    · obtain ⟨rfl⟩ := (Prod.mk.inj (Except.ok.inj (hread.symm.trans hgood))).1
      exact hload
    · exact absurd (Except.ok.inj (hread.symm.trans hgood)) (by simp)
  · intro name hname
    obtain ⟨hnul, hnone⟩ := hothers name hname
    exact hmissing "t".toList name hnul hnone
  · obtain ⟨hmem, -, hrefused, -⟩ := hanswer "t".toList "css".toList "a\x00".toList s
    obtain ⟨hread, hload⟩ := hrefused (hmem (by decide))
    obtain ⟨-, hiff, hroot, -⟩ := hanswer "\x00".toList "css".toList "good".toList s
    refine ⟨hread, hload, (hroot (hiff.2 (Or.inr (by decide)))).1, ?_⟩
    obtain ⟨-, hiff', -⟩ := hanswer "\x00".toList "css".toList "/t/good".toList s
    obtain ⟨fault, hread', -⟩ :=
      hmissing "\x00".toList "/t/good".toList (mt hiff'.1 (by decide)) (by decide +kernel)
    exact ⟨fault, hread'⟩

end TextSource
end Cascade
