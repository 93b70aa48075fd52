import Cascade.Proofs.Command.CommandLines
import Cascade.Proofs.Command.Steps

/-!
# The log level is about diagnostics only

No step of a job asks for the log level, so it is struck out of the requests: command lines that ask
for the same thing without it have the same answer and status.
-/

namespace Cascade

/-! ## 1. Environments -/

def Settings.withoutLevel (s : Settings) : Settings := { s with level := .notset }

namespace Environment

/-- Holds when the log level is not set, or is a level's name in any letter case. -/
def LevelKnown (environment : Environment) : Prop :=
  ∀ value, environment.lookup "CSSDECL_LOG_LEVEL".toList = some value →
    ∃ level : Level, level.name = Text.upper value

def AlikeButLevel (environment environment' : Environment) : Prop :=
  ∀ name, name ≠ "CSSDECL_LOG_LEVEL".toList → environment.lookup name = environment'.lookup name

end Environment

/-- With a known level, settings can be made from anything else. -/
theorem Settings.make_known {name : Option Text}
    (h : ∀ value, name = some value → ∃ level : Level, level.name = value)
    (platform directory extension : Option Text) :
    (make platform directory extension name).map withoutLevel =
      .ok ⟨platform.getD Platform.deferred.name, directory.getD ['.'],
        extension.getD TextSource.defaultExtension, .notset⟩ := by
  have hlevel : ∃ level : Level, level.name = name.getD Level.warning.name := by
    cases name with
    | none => exact ⟨.warning, rfl⟩
    | some value => exact h value rfl
  obtain ⟨level, hlevel⟩ := hlevel
  unfold make
  rw [← hlevel]
  dsimp only
  rw [level.ofName?_name]
  rfl

/-- Environments with known levels that are otherwise alike have the same settings but for the
level. -/
theorem Settings.ofEnvironment_alike {environment environment' : Environment}
    (h : environment.AlikeButLevel environment') (hlevel : environment.LevelKnown)
    (hlevel' : environment'.LevelKnown) :
    (ofEnvironment environment).map withoutLevel =
      (ofEnvironment environment').map withoutLevel := by
  have hknown {e : Environment} (he : e.LevelKnown) : ∀ value,
      (e.lookup "CSSDECL_LOG_LEVEL".toList).map Text.upper = some value →
        ∃ level : Level, level.name = value := by
    intro value hvalue
    obtain ⟨written, hwritten, rfl⟩ := Option.map_eq_some_iff.1 hvalue
    exact he written hwritten
  unfold ofEnvironment
  rw [make_known (hknown hlevel), make_known (hknown hlevel'), h _ (by decide), h _ (by decide),
    h _ (by decide)]

namespace Command

/-! ## 2. Requests -/

def Request.withoutLevel : Request → Request
  | .run settings job => .run settings.withoutLevel job
  | r => r

theorem settingsFor_withoutLevel (environment : Environment) (platform : Option Platform)
    (verbose : Bool) :
    (settingsFor environment platform verbose).map Settings.withoutLevel =
      match (Settings.ofEnvironment environment).map Settings.withoutLevel with
      | .error e => .error (.usage none (.unknownLevel e))
      | .ok s => .ok { s with platform := (platform.map Platform.name).getD s.platform } := by
  unfold settingsFor
  cases Settings.ofEnvironment environment with
  | error e => rfl
  | ok s => rfl

theorem map_eq_map_iff {ε α β : Type} {shown : α → β} {x y : Except ε α} :
    x.map shown = y.map shown ↔
      (∃ e, x = .error e ∧ y = .error e) ∨
        ∃ a b, x = .ok a ∧ y = .ok b ∧ shown a = shown b := by
  cases x <;> cases y <;> simp [Except.map, eq_comm]

/-- The options and words of a command have nothing to do with the level. -/
theorem Subcommand.request_alike {s s' : Settings} (h : s.withoutLevel = s'.withoutLevel)
    (c : Subcommand) (arguments : List Text) :
    (c.request s arguments).map Request.withoutLevel =
      (c.request s' arguments).map Request.withoutLevel := by
  unfold request
  cases c.grammar.read arguments with
  | error fault => rfl
  | ok a =>
    dsimp only
    cases a.options.findSome? (ending? (some c)) with
    | some r => rfl
    | none =>
      dsimp only
      cases c.job (a.options.contains (.flag .raw)) a.words with
      | error f => rfl
      | ok job => exact congrArg (fun settings => Except.ok (Request.run settings job)) h

section
variable {environment environment' : Environment}

/-- Nor has the name of the command, which is looked at before the environment is. -/
theorem requestOfWords_alike
    (h : (Settings.ofEnvironment environment).map Settings.withoutLevel =
      (Settings.ofEnvironment environment').map Settings.withoutLevel)
    (platform : Option Platform) (verbose verbose' : Bool) (words : List Text) :
    (requestOfWords environment platform verbose words).map Request.withoutLevel =
      (requestOfWords environment' platform verbose' words).map Request.withoutLevel := by
  cases words with
  | nil => rfl
  | cons name arguments =>
    have hsettings : (settingsFor environment platform verbose).map Settings.withoutLevel =
        (settingsFor environment' platform verbose').map Settings.withoutLevel := by
      rw [settingsFor_withoutLevel, settingsFor_withoutLevel, h]
    unfold requestOfWords
    dsimp only
    -- A name that is unknown is dealt with before the environment is read.
    cases Subcommand.ofName? name with
    | none => rfl
    | some c =>
      rcases map_eq_map_iff.1 hsettings with ⟨f, hf, hf'⟩ | ⟨s, s', hs, hs', halike⟩
      · rw [hf, hf']
      · rw [hs, hs']
        exact c.request_alike halike arguments

/-! ## 3. Verbose command lines -/

theorem findSome?_ending?_verbose {gs : List Given} (h : ∀ g ∈ gs, g = .flag .verbose)
    (scope : Scope) (options : List Given) :
    (gs ++ options).findSome? (ending? scope) = options.findSome? (ending? scope) := by
  have hnone : gs.findSome? (ending? scope) = none := by
    refine List.findSome?_eq_none_iff.2 fun g hg => ?_
    rw [h g hg]
    rfl
  rw [List.findSome?_append, hnone, Option.none_or]

theorem lastPlatform?_verbose {gs : List Given} (h : ∀ g ∈ gs, g = .flag .verbose)
    (options : List Given) : lastPlatform? (gs ++ options) = lastPlatform? options := by
  unfold lastPlatform?
  rw [List.reverse_append, List.findSome?_append]
  refine (congrArg _ (List.findSome?_eq_none_iff.2 fun g hg => ?_)).trans Option.or_none
  rw [h g (List.mem_reverse.1 hg)]

/-- Asking for more diagnostics leaves the rest of a request as it is. -/
theorem request_alike
    (h : (Settings.ofEnvironment environment).map Settings.withoutLevel =
      (Settings.ofEnvironment environment').map Settings.withoutLevel)
    {gs : List Given} (hgs : ∀ g ∈ gs, g = .flag .verbose) {arguments arguments' : List Text}
    (hne : arguments ≠ []) (hne' : arguments' ≠ [])
    (hread : programGrammar.read arguments' =
      (programGrammar.read arguments).map (·.withOptions gs)) :
    (request environment' arguments').map Request.withoutLevel =
      (request environment arguments).map Request.withoutLevel := by
  unfold request
  rw [if_neg (by simpa using hne'), if_neg (by simpa using hne), hread]
  cases programGrammar.read arguments with
  | error fault => rfl
  | ok a =>
    have hplatform : chosenPlatform (gs ++ a.options) = chosenPlatform a.options := by
      unfold chosenPlatform
      rw [lastPlatform?_verbose hgs]
    simp only [Except.map, Arguments.withOptions, findSome?_ending?_verbose hgs, hplatform]
    -- A help or version option ends both before any setting is made.
    cases a.options.findSome? (ending? none) with
    | some r => rfl
    | none =>
      cases chosenPlatform a.options with
      | error f => rfl
      | ok platform => exact requestOfWords_alike h.symm platform _ _ a.words

end

/-! ## 4. Runs -/

/-- A job runs the same way without its level. -/
theorem Job.course_withoutLevel (files : Resource.FileSystem) (settings : Settings) (job : Job) :
    job.course files settings.withoutLevel = job.course files settings := by
  cases job <;> rfl

theorem Request.agree_withoutLevel (files : Resource.FileSystem) (r : Request) :
    (r.withoutLevel.outcome files).Agree (r.outcome files) := by
  cases r with
  | version => exact ⟨rfl, rfl⟩
  | help scope => exact ⟨rfl, rfl⟩
  | run settings job =>
    unfold withoutLevel outcome
    dsimp only
    rw [job.course_withoutLevel]
    exact Course.Agree.outcome ⟨rfl, rfl⟩ _ _

/-- Requests that are the same without their level have the same answer. -/
theorem agree_run {environment environment' : Environment} {arguments arguments' : List Text}
    (h : (request environment arguments).map Request.withoutLevel =
      (request environment' arguments').map Request.withoutLevel)
    (files : Resource.FileSystem) :
    (run environment files arguments).Agree (run environment' files arguments') := by
  unfold run
  rcases map_eq_map_iff.1 h with ⟨f, hf, hf'⟩ | ⟨r, r', hr, hr', halike⟩
  · rw [hf, hf']
    exact ⟨rfl, rfl⟩
  · rw [hr, hr']
    have hagree := r.agree_withoutLevel files
    rw [halike] at hagree
    exact hagree.symm.trans (r'.agree_withoutLevel files)

/-- **The log level is about diagnostics only.**  Whatever known levels two environments have that
are otherwise alike, and whether or not `-v` comes before the arguments, the status and the standard
output are the same. -/
theorem run_agree_of_levels {environment environment' : Environment}
    (halike : environment.AlikeButLevel environment') (hlevel : environment.LevelKnown)
    (hlevel' : environment'.LevelKnown) (files : Resource.FileSystem) {arguments : List Text}
    (harguments : arguments ≠ []) :
    (run environment' files arguments).Agree (run environment files arguments) ∧
      (run environment' files ("-v".toList :: arguments)).Agree
        (run environment files arguments) := by
  have hsettings := Settings.ofEnvironment_alike halike hlevel hlevel'
  constructor
  · have hnone : ∀ g ∈ ([] : List Given), g = .flag .verbose := by simp
    refine agree_run (request_alike hsettings hnone harguments harguments ?_) files
    cases programGrammar.read arguments with
    | error fault => rfl
    | ok a => rfl
  · have hverbose : ∀ g ∈ [Given.flag .verbose], g = .flag .verbose := by simp
    refine agree_run (request_alike hsettings hverbose harguments ?_ ?_) files
    · exact List.cons_ne_nil _ _
    · exact read_verbose arguments

/-- What is dropped from a style shows only on the error stream. -/
theorem run_resolve_verbose :
    let environment : Environment := [("CSSDECL_LOG_LEVEL".toList, "Error".toList)]
    let sheet := ".a \x7b color: red; oops \x7d".toList
    let files := (Resource.FileTree.mk [(["s.css".toList], Text.Utf8.encode sheet)]).fileSystem
    let arguments := ["resolve".toList, "s".toList, "b".toList, "a".toList]
    let outcome := run environment files arguments
    let verbose := run [] files ("-v".toList :: arguments)
    environment.AlikeButLevel [] ∧ environment.LevelKnown ∧ Environment.LevelKnown [] ∧
      arguments ≠ [] ∧ outcome.status = 0 ∧ verbose.Agree outcome ∧
      verbose.stderr ≠ outcome.stderr := by
  intro environment sheet files arguments outcome verbose
  have halike : environment.AlikeButLevel [] := by
    intro name hname
    have hkey : (name == "CSSDECL_LOG_LEVEL".toList) = false := beq_false_of_ne hname
    rw [List.lookup_cons, hkey]
  have hlevel : environment.LevelKnown := by
    intro value hvalue
    rw [show environment.lookup _ = some "Error".toList from rfl] at hvalue
    cases hvalue
    exact ⟨.error, by decide +kernel⟩
  have hunset : Environment.LevelKnown [] := by
    intro value hvalue
    cases hvalue
  have harguments : arguments ≠ [] := List.cons_ne_nil _ _
  have hstatus : outcome.status = 0 := by decide +kernel
  have hstderr : verbose.stderr ≠ outcome.stderr := by decide +kernel
  have hagree := (run_agree_of_levels halike hlevel hunset files harguments).2
  exact ⟨halike, hlevel, hunset, harguments, hstatus, hagree, hstderr⟩

end Command
end Cascade
