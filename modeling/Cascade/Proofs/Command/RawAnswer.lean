import Cascade.Proofs.Command.CommandLines
import Cascade.Proofs.Command.Steps
import Cascade.Proofs.Sheet.Entries

/-!
# Merged declarations as an argument

The declarations that a command prints in place of their style can be handed to the command that
reads declarations, which then gives that style.
-/

namespace Cascade

/-! ## 1. The merged text -/

/-- Merging adds no characters but the two between the bodies. -/
theorem Sheet.mem_of_mem_resolve {c : Char} {t : Text} (hc : c ∉ "; ".toList) {classes : List Text}
    (h : c ∈ (Sheet.ofText t).resolve classes) : c ∈ t := by
  unfold Sheet.resolve at h
  obtain ⟨body, hbody, hmem⟩ := (Text.mem_intercalate_iff hc).1 h
  obtain ⟨name, -, hcss⟩ := List.mem_filterMap.1 hbody
  exact Sheet.mem_of_css?_ofText hcss hmem

namespace Command

theorem printed_resolve {t : Text} (h : '\x1b' ∉ t) (classes : List Text) :
    printed ((Sheet.ofText t).resolve classes) = (Sheet.ofText t).resolve classes ++ ['\n'] := by
  unfold printed
  rw [stripSequences_of_not_mem (mt (Sheet.mem_of_mem_resolve (by decide)) h)]

/-! ## 2. The jobs -/

section
variable {files : Resource.FileSystem} {settings : Settings} {stylesheet t : Text} {p : Platform}

/-- The provider is found without a word, so only the style is seen. -/
theorem agree_printStyle (hp : Platform.ofText? settings.platform = some p) (c : Subcommand)
    (declarations : Text) :
    (providerFor c settings >>= fun provider => printStyle provider declarations).Agree
      (printStyle p.provider declarations) :=
  Course.agree_bind (silent_providerFor c settings)
    ((ending_providerFor_eq_ok_iff c settings _).2 ⟨p, hp, rfl⟩) _

theorem agree_parse (hp : Platform.ofText? settings.platform = some p) (declarations : Text) :
    ((Job.parse declarations).course files settings).Agree
      (printStyle p.provider declarations) :=
  agree_printStyle hp .parse declarations

/-- Once its stylesheet has been read, a job has only warnings to give before its answer. -/
theorem agree_resolve (ht : stylesheetText? files settings stylesheet = some t)
    (classes : List Text) (raw : Bool) :
    ((Job.resolve stylesheet classes raw).course files settings).Agree
      (if raw then .printLine ((Sheet.ofText t).resolve classes)
      else do
        let provider ← providerFor .resolve settings
        printStyle provider ((Sheet.ofText t).resolve classes)) := by
  have hread : (readSheet files settings stylesheet).ending = .ok (Sheet.ofText t) :=
    (ending_readSheet_eq_ok_iff files settings stylesheet _).2 ⟨t, ht, rfl⟩
  refine (Course.agree_bind (silent_readSheet files settings stylesheet) hread _).trans ?_
  refine (Course.agree_bind (silent_missingClasses _ stylesheet classes) rfl _).trans ?_
  exact Course.agree_bind (Course.silent_report _) rfl _

/-- The answer without its terminal sequences is the merged text itself. -/
theorem agree_printLine_resolve (hescape : '\x1b' ∉ t) (classes : List Text) :
    ((Course.printLine ((Sheet.ofText t).resolve classes)).outcome settings).Agree
      ⟨0, (Sheet.ofText t).resolve classes ++ ['\n'], []⟩ := by
  constructor
  · rfl
  · rw [← printed_resolve hescape]
    exact List.append_nil _

end

/-! ## 3. The command lines -/

section
variable {environment : Environment} {settings : Settings} {platform : Text} {p : Platform}
variable (henvironment : Settings.ofEnvironment environment = .ok settings)
  (hplatform : Platform.ofText? platform = some p)
include henvironment hplatform

/-- The platform on the command line takes the place of the one in the settings. -/
theorem run_platform (files : Resource.FileSystem) {c : Subcommand} {arguments : List Text}
    {r : Request} (hrequest : c.request { settings with platform := p.name } arguments = .ok r) :
    run environment files ("--platform".toList :: platform :: c.name :: arguments) =
      r.outcome files := by
  unfold run
  rw [request_platform henvironment hplatform, hrequest]

/-- Declarations after two hyphens are printed as their style. -/
theorem agree_run_parse (files : Resource.FileSystem) (declarations : Text) :
    (run environment files
      ["--platform".toList, platform, "parse".toList, "--".toList, declarations]).Agree
      ((printStyle p.provider declarations).outcome settings) := by
  let chosen : Settings := { settings with platform := p.name }
  have hrun : run environment files
      ["--platform".toList, platform, "parse".toList, "--".toList, declarations] =
      ((Job.parse declarations).course files chosen).outcome chosen :=
    run_platform henvironment hplatform files (Subcommand.request_parse_dashes chosen declarations)
  rw [hrun]
  exact (agree_parse (Platform.ofText?_name p) declarations).outcome chosen settings

variable {files : Resource.FileSystem} {stylesheet t : Text}
  (ht : stylesheetText? files settings stylesheet = some t)
include ht

/-- Classes of a stylesheet are printed as the style of their merged text. -/
theorem agree_run_resolve {classes : List Text} (hclasses : classes ≠ []) :
    (run environment files
      ("--platform".toList :: platform :: "resolve".toList :: "--".toList :: stylesheet ::
        classes)).Agree
      ((printStyle p.provider ((Sheet.ofText t).resolve classes)).outcome settings) := by
  obtain ⟨name, rest, rfl⟩ := List.exists_cons_of_ne_nil hclasses
  let chosen : Settings := { settings with platform := p.name }
  have hrun : run environment files
      ("--platform".toList :: platform :: "resolve".toList :: "--".toList :: stylesheet :: name ::
        rest) =
      ((Job.resolve stylesheet (name :: rest) false).course files chosen).outcome chosen :=
    run_platform henvironment hplatform files
      (Subcommand.request_resolve_dashes chosen stylesheet name rest)
  -- The platform has no part in where a stylesheet is looked for.
  have hread : stylesheetText? files chosen stylesheet = some t := ht
  rw [hrun]
  exact ((agree_resolve hread (name :: rest) false).trans
    (agree_printStyle (Platform.ofText?_name p) .resolve _)).outcome chosen settings

/-- With the raw option the merged text is printed as it is. -/
theorem agree_run_resolve_raw (hescape : '\x1b' ∉ t) {classes : List Text}
    (hclasses : classes ≠ []) :
    (run environment files
      ("--platform".toList :: platform :: "resolve".toList :: "--raw".toList :: "--".toList ::
        stylesheet :: classes)).Agree
      ⟨0, (Sheet.ofText t).resolve classes ++ ['\n'], []⟩ := by
  obtain ⟨name, rest, rfl⟩ := List.exists_cons_of_ne_nil hclasses
  let chosen : Settings := { settings with platform := p.name }
  have hrun : run environment files
      ("--platform".toList :: platform :: "resolve".toList :: "--raw".toList :: "--".toList ::
        stylesheet :: name :: rest) =
      ((Job.resolve stylesheet (name :: rest) true).course files chosen).outcome chosen :=
    run_platform henvironment hplatform files
      (Subcommand.request_resolve_raw_dashes chosen stylesheet name rest)
  have hread : stylesheetText? files chosen stylesheet = some t := ht
  rw [hrun]
  exact ((agree_resolve hread (name :: rest) true).outcome chosen chosen).trans
    (agree_printLine_resolve hescape (name :: rest))

end

/-- **Printed declarations have the style that they are printed for.**  With a platform chosen on
the command line, the merged declarations of any classes of a stylesheet are printed as they are.
Given back as an argument, they make the same answer as resolving the classes, and both succeed. -/
theorem run_parse_raw_eq_run_resolve {environment : Environment} {settings : Settings}
    (henvironment : Settings.ofEnvironment environment = .ok settings) {platform : Text}
    {p : Platform} (hplatform : Platform.ofText? platform = some p) {files : Resource.FileSystem}
    {stylesheet t : Text} (ht : stylesheetText? files settings stylesheet = some t)
    (hescape : '\x1b' ∉ t) {classes : List Text} (hclasses : classes ≠ []) :
    let command (arguments : List Text) : Outcome :=
      run environment files ("--platform".toList :: platform :: arguments)
    let raw := command ("resolve".toList :: "--raw".toList :: "--".toList :: stylesheet :: classes)
    let parsed := command ["parse".toList, "--".toList, raw.stdout.dropLast]
    let resolved := command ("resolve".toList :: "--".toList :: stylesheet :: classes)
    raw.status = 0 ∧ raw.stdout = raw.stdout.dropLast ++ ['\n'] ∧
      parsed.status = 0 ∧ resolved.status = 0 ∧ parsed.stdout = resolved.stdout := by
  intro command raw parsed resolved
  let merged : Text := (Sheet.ofText t).resolve classes
  have hraw : raw.Agree ⟨0, merged ++ ['\n'], []⟩ :=
    agree_run_resolve_raw henvironment hplatform ht hescape hclasses
  -- The newline is all that printing adds to the merged text.
  have hmerged : raw.stdout.dropLast = merged := by
    rw [hraw.stdout]
    exact List.dropLast_concat
  -- Both commands come to print the style of the merged text.
  have hparsed : parsed.Agree ((printStyle p.provider merged).outcome settings) := by
    rw [← hmerged]
    exact agree_run_parse henvironment hplatform files raw.stdout.dropLast
  have hresolved : resolved.Agree ((printStyle p.provider merged).outcome settings) :=
    agree_run_resolve henvironment hplatform ht hclasses
  have hstyle : ((printStyle p.provider merged).outcome settings).status = 0 :=
    (finishes_printStyle p.provider merged).status settings
  refine ⟨hraw.status, ?_, hparsed.status.trans hstyle, hresolved.status.trans hstyle, ?_⟩
  · rw [hmerged]
    exact hraw.stdout
  · exact hparsed.stdout.trans hresolved.stdout.symm

/-- The merged text starts like an option, and not all of the classes are there. -/
theorem run_parse_raw_leading_hyphen :
    let sheet := ".a \x7b -x: 'y'; color: RED \x7d\n.b \x7b\x7d".toList
    let files := (Resource.FileTree.mk [(["s.css".toList], Text.Utf8.encode sheet)]).fileSystem
    let command (arguments : List Text) : Outcome :=
      run [] files ("--platform".toList :: "UIKit".toList :: arguments)
    let classes := ["b".toList, "c".toList, "a".toList]
    let merged := "-x: 'y'; color: RED".toList
    let raw := command ("resolve".toList :: "--raw".toList :: "--".toList :: "s".toList :: classes)
    let parsed := command ["parse".toList, "--".toList, merged]
    let resolved := command ("resolve".toList :: "--".toList :: "s".toList :: classes)
    '\x1b' ∉ sheet ∧ classes ≠ [] ∧ raw.status = 0 ∧ raw.stdout = merged ++ ['\n'] ∧
      parsed.status = 0 ∧ resolved.status = 0 ∧ parsed.stdout = resolved.stdout := by
  intro sheet files command classes merged raw parsed resolved
  have hplatform : Platform.ofText? "UIKit".toList = some .uikit := by decide +kernel
  let settings : Settings := ⟨Platform.deferred.name, ['.'], "css".toList, .warning⟩
  have henvironment : Settings.ofEnvironment [] = .ok settings := rfl
  have hsheet : stylesheetText? files settings "s".toList = some sheet := by decide +kernel
  have hescape : '\x1b' ∉ sheet := by decide +kernel
  have hclasses : classes ≠ [] := by decide
  have hstdout : raw.stdout = merged ++ ['\n'] := by decide +kernel
  have hmerged : raw.stdout.dropLast = merged := by
    rw [hstdout, List.dropLast_concat]
  obtain ⟨hraw, -, hrest⟩ :=
    run_parse_raw_eq_run_resolve henvironment hplatform hsheet hescape hclasses
  rw [hmerged] at hrest
  exact ⟨hescape, hclasses, hraw, hstdout, hrest⟩

end Command
end Cascade
