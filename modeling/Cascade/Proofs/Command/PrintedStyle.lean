import Cascade.Proofs.Command.RawAnswer
import Cascade.Proofs.Json.ReadBack
import Cascade.Proofs.Style.FiniteNumbers

/-!
# The printed style

What the command prints for declarations is JSON in printable ASCII, whatever the declarations hold.
-/

namespace Cascade

/-! ## 1. The text of a style -/

namespace Style

/-- A member of the printed object is what the field is encoded to, or it is missing. -/
theorem lookup_documentMembers (s : Style) (f : Field) :
    (Json.documentMembers s.members).lookup f.key = (f.encode (s.get f)).map Json.document := by
  rw [Json.lookup_documentMembers, s.lookup_members]

/-- The document of a text is the text itself. -/
theorem lookup_documentMembers_backgroundImage (s : Style) :
    (Json.documentMembers s.members).lookup "background_image".toList =
      s.backgroundImage.map .text := by
  have himage := s.lookup_documentMembers .backgroundImage
  show (Json.documentMembers s.members).lookup Field.backgroundImage.key = _
  rw [himage]
  show (s.backgroundImage.map Json.text).map Json.document = s.backgroundImage.map .text
  rw [Option.map_map]
  rfl

end Style

namespace Command

/-- There is no escape character in the text of a style, and so no terminal sequence. -/
theorem printed_toJson {s : Style} (h : s.toJson.IsFinite) :
    printed s.toJson.print = s.toJson.print ++ ['\n'] := by
  have hescape : '\x1b' ∉ s.toJson.print := by
    intro hmem
    have hplain := Json.isPlain_of_mem_render h 0 _ hmem
    exact absurd hplain (by decide)
  unfold printed
  rw [stripSequences_of_not_mem hescape]

/-- The records that come before the style go to the other stream. -/
theorem stdout_printStyle (provider : Provider) (t : Text) (settings : Settings) :
    ((printStyle provider t).outcome settings).stdout =
      printed (Style.ofText provider t).toJson.print := by
  have hline : (printStyle provider t).Agree
      (.printLine (Style.ofText provider t).toJson.print) :=
    Course.agree_bind (Course.silent_report _) rfl _
  rw [(hline.outcome settings settings).stdout]
  exact List.append_nil _

/-! ## 2. The command -/

/-- A command by its name alone, with the settings of the environment. -/
theorem run_name {environment : Environment} {settings : Settings}
    (henvironment : Settings.ofEnvironment environment = .ok settings)
    (files : Resource.FileSystem) {c : Subcommand} {arguments : List Text} {r : Request}
    (hrequest : c.request settings arguments = .ok r) :
    run environment files (c.name :: arguments) = r.outcome files := by
  have hsettings : settingsFor environment none false = .ok settings := by
    unfold settingsFor
    rw [henvironment]
    rfl
  have hrun : request environment (c.name :: arguments) = .ok r := by
    rw [request_name, hsettings]
    exact hrequest
  unfold run
  rw [hrun]

/-- Holds for an outcome that shows a style and nothing else: its JSON text in plain characters,
with no terminal sequence taken out, and a newline.  The text says that the members of the style are
there in their order, each with its value. -/
structure Outcome.ShowsStyle (o : Outcome) (s : Style) : Prop where
  status : o.status = 0
  stdout : o.stdout = s.toJson.print ++ ['\n']
  plain : ∀ c ∈ o.stdout, Json.isPlain c = true
  read : ∃ members, Json.Document.ofText? s.toJson.print = some (.object members) ∧
    Json.Document.ofText? o.stdout = some (.object members) ∧
    members.map Prod.fst = s.members.map Prod.fst ∧
    (∀ f : Field, members.lookup f.key = (f.encode (s.get f)).map Json.document) ∧
    members.lookup "background_image".toList = s.backgroundImage.map .text

/-- An outcome shows the style if it agrees with printing it. -/
theorem showsStyle_of_agree {provider : Provider} (hprovider : provider.IsFinite) (t : Text)
    (settings : Settings) {o : Outcome} (h : o.Agree ((printStyle provider t).outcome settings)) :
    o.ShowsStyle (Style.ofText provider t) := by
  let s := Style.ofText provider t
  have hfinite : s.toJson.IsFinite := Style.isFinite_toJson_ofText hprovider t
  have hstdout : o.stdout = s.toJson.print ++ ['\n'] := by
    rw [h.stdout, stdout_printStyle, printed_toJson hfinite]
  have hread : Json.Document.ofText? s.toJson.print =
      some (.object (Json.documentMembers s.members)) := by
    have hprint := Json.ofText?_print hfinite [] (by simp)
    rwa [List.append_nil] at hprint
  -- Blanks behind a JSON text are no part of it, so the newline does not matter.
  have hreadLine : Json.Document.ofText? o.stdout =
      some (.object (Json.documentMembers s.members)) := by
    rw [hstdout]
    exact Json.ofText?_print hfinite ['\n'] (List.all_eq_true.1 (by decide))
  constructor
  · exact h.status.trans ((finishes_printStyle provider t).status settings)
  · exact hstdout
  · intro c hc
    rw [hstdout, List.mem_append, List.mem_singleton] at hc
    rcases hc with hc | rfl
    · exact Json.isPlain_of_mem_render hfinite 0 c hc
    · decide
  · exact ⟨Json.documentMembers s.members, hread, hreadLine, Json.map_fst_documentMembers s.members,
      s.lookup_documentMembers, s.lookup_documentMembers_backgroundImage⟩

/-- **The printed style is JSON that says what the style is.**  Whatever the declarations, with a
platform from the environment or from the command line, the command succeeds and prints the text of
their style: plain characters, which no removal of terminal sequences touches, and a newline.  Read
as JSON, it is an object with the members of the style in their order, and the background image
comes out as it went in. -/
theorem run_parse_showsStyle {environment : Environment} {settings : Settings}
    (henvironment : Settings.ofEnvironment environment = .ok settings)
    (files : Resource.FileSystem) (t : Text) :
    (∀ p, Platform.ofText? settings.platform = some p →
      (run environment files ["parse".toList, "--".toList, t]).ShowsStyle
        (Style.ofText p.provider t)) ∧
    ∀ value p, Platform.ofText? value = some p →
      (run environment files
        ["--platform".toList, value, "parse".toList, "--".toList, t]).ShowsStyle
        (Style.ofText p.provider t) := by
  constructor
  · intro p hp
    have hrun : run environment files ["parse".toList, "--".toList, t] =
        ((Job.parse t).course files settings).outcome settings :=
      run_name henvironment files (Subcommand.request_parse_dashes settings t)
    apply showsStyle_of_agree p.isFinite_provider t settings
    rw [hrun]
    exact (agree_parse hp t).outcome settings settings
  · intro value p hp
    exact showsStyle_of_agree p.isFinite_provider t settings
      (agree_run_parse henvironment hp files t)

/-- The image holds a quote, a terminal sequence, a backslash and a character beyond the first
plane. -/
theorem run_parse_showsStyle_escapes :
    let t := "background-image: \"\x1b[31m\\u😀\x7f".toList
    let environment : Environment := [("CSSDECL_PLATFORM".toList, "appkit".toList)]
    let settings : Settings :=
      ⟨"appkit".toList, ".".toList, TextSource.defaultExtension, .warning⟩
    let files := (Resource.FileTree.mk []).fileSystem
    let style (p : Platform) : Style := Style.ofText p.provider t
    Settings.ofEnvironment environment = .ok settings ∧
      Platform.ofText? settings.platform = some .appkit ∧
      Platform.ofText? "None".toList = some .plain ∧
      (style .appkit).backgroundImage = some "\"\x1b[31m\\u😀\x7f".toList ∧
      (run environment files ["parse".toList, "--".toList, t]).ShowsStyle (style .appkit) ∧
      (run environment files ["--platform".toList, "None".toList, "parse".toList, "--".toList,
        t]).ShowsStyle (style .plain) := by
  intro t environment settings files style
  have henvironment : Settings.ofEnvironment environment = .ok settings := rfl
  have hplatform : Platform.ofText? settings.platform = some .appkit :=
    Platform.ofText?_name .appkit
  have hvalue : Platform.ofText? "None".toList = some .plain := by decide +kernel
  have himage : (style .appkit).backgroundImage = some "\"\x1b[31m\\u😀\x7f".toList := by
    decide +kernel
  obtain ⟨hown, hchosen⟩ := run_parse_showsStyle henvironment files t
  exact ⟨henvironment, hplatform, hvalue, himage, hown .appkit hplatform,
    hchosen "None".toList .plain hvalue⟩

end Command
end Cascade
