import Cascade.Command.Run
import Cascade.Proofs.Command.CommandLines

/-!
# The platform on the command line

A platform is named by the environment or chosen on the command line.  Either way it becomes the
platform of the settings, of which a job uses no more than the provider.
-/

namespace Cascade

/-! ## 1. Settings -/

def Environment.AlikeBut (changed : Text) (environment environment' : Environment) : Prop :=
  ∀ name, name ≠ changed → environment.lookup name = environment'.lookup name

namespace Settings

def withPlatform (name : Text) (s : Settings) : Settings := { s with platform := name }

/-- The platform is the one setting that is not checked when settings are made. -/
theorem map_withPlatform_make (name : Text) (platform directory extension level : Option Text) :
    (make platform directory extension level).map (withPlatform name) =
      make (some name) directory extension level := by
  unfold make
  dsimp only
  cases Level.ofName? (level.getD Level.warning.name) with
  | some level => rfl
  | none => rfl

section
variable {environment environment' : Environment}

/-- Once the platform is overwritten, environments that differ only there have the same settings. -/
theorem map_withPlatform_ofEnvironment
    (h : environment.AlikeBut "CSSDECL_PLATFORM".toList environment') (name : Text) :
    (ofEnvironment environment).map (withPlatform name) =
      (ofEnvironment environment').map (withPlatform name) := by
  have hdirectory := h "CSSDECL_STYLESHEET_DIR".toList (by decide)
  have hextension := h "CSSDECL_DEFAULT_EXTENSION".toList (by decide)
  have hlevel := h "CSSDECL_LOG_LEVEL".toList (by decide)
  unfold ofEnvironment
  rw [map_withPlatform_make, map_withPlatform_make, hdirectory, hextension, hlevel]

theorem map_withPlatform_of_lookup {name : Text}
    (h : environment.lookup "CSSDECL_PLATFORM".toList = some name) :
    (ofEnvironment environment).map (withPlatform name) = ofEnvironment environment := by
  unfold ofEnvironment
  rw [map_withPlatform_make, h]

end
end Settings

namespace Command

theorem map_withPlatform_settingsFor (environment : Environment) (name : Text) :
    (settingsFor environment none false).map (Settings.withPlatform name) =
      match (Settings.ofEnvironment environment).map (Settings.withPlatform name) with
      | .error e => .error (.usage none (.unknownLevel e))
      | .ok s => .ok s := by
  unfold settingsFor
  cases Settings.ofEnvironment environment with
  | error e => rfl
  | ok s => rfl

/-- A chosen platform overwrites the environment's in the settings. -/
theorem settingsFor_some (environment : Environment) (p : Platform) :
    settingsFor environment (some p) false =
      (settingsFor environment none false).map (Settings.withPlatform p.name) := by
  unfold settingsFor
  cases Settings.ofEnvironment environment with
  | error e => rfl
  | ok s => rfl

/-! ## 2. Requests -/

def Request.withPlatform (name : Text) : Request → Request
  | .run settings job => .run (settings.withPlatform name) job
  | r => r

theorem ending?_withPlatform {scope : Scope} {g : Given} {r : Request}
    (h : ending? scope g = some r) (name : Text) : r.withPlatform name = r := by
  unfold ending? at h
  split at h
  · cases h
    rfl
  · cases h
    rfl
  · cases h

/-- The options and words of a command do not depend on the platform. -/
theorem Subcommand.request_withPlatform (c : Subcommand) (name : Text) (settings : Settings)
    (arguments : List Text) :
    c.request (settings.withPlatform name) arguments =
      (c.request settings arguments).map (Request.withPlatform name) := by
  unfold request
  cases c.grammar.read arguments with
  | error fault => rfl
  | ok a =>
    dsimp only
    cases hending : a.options.findSome? (ending? (some c)) with
    | some r =>
      -- A request that ends early carries no settings, so there is nothing to change in it.
      obtain ⟨g, -, hg⟩ := List.exists_of_findSome?_eq_some hending
      show Except.ok r = Except.ok (r.withPlatform name)
      rw [ending?_withPlatform hg]
    | none =>
      dsimp only
      cases c.job (a.options.contains (.flag .raw)) a.words with
      | error f => rfl
      | ok job => rfl

theorem map_withPlatform_request (environment : Environment) (name : Text) (c : Subcommand)
    (arguments : List Text) :
    (request environment (c.name :: arguments)).map (Request.withPlatform name) =
      ((settingsFor environment none false).map (Settings.withPlatform name)).bind
        fun s => c.request s arguments := by
  rw [request_name]
  cases settingsFor environment none false with
  | error f => rfl
  | ok s => exact (c.request_withPlatform name s arguments).symm

/-- A choice on the command line puts its platform into the request that is made without it. -/
theorem request_platform_eq_map {value : Text} {p : Platform}
    (hp : Platform.ofText? value = some p) (environment : Environment) (c : Subcommand)
    (arguments : List Text) :
    request environment ("--platform".toList :: value :: c.name :: arguments) =
      (request environment (c.name :: arguments)).map (Request.withPlatform p.name) := by
  rw [request_platform_name hp, settingsFor_some, map_withPlatform_request]

theorem map_withPlatform_request_alike {environment environment' : Environment}
    (h : environment.AlikeBut "CSSDECL_PLATFORM".toList environment') (name : Text)
    (c : Subcommand) (arguments : List Text) :
    (request environment (c.name :: arguments)).map (Request.withPlatform name) =
      (request environment' (c.name :: arguments)).map (Request.withPlatform name) := by
  rw [map_withPlatform_request, map_withPlatform_request, map_withPlatform_settingsFor,
    map_withPlatform_settingsFor, Settings.map_withPlatform_ofEnvironment h]

theorem map_withPlatform_request_of_lookup {environment : Environment} {name : Text}
    (h : environment.lookup "CSSDECL_PLATFORM".toList = some name) (c : Subcommand)
    (arguments : List Text) :
    (request environment (c.name :: arguments)).map (Request.withPlatform name) =
      request environment (c.name :: arguments) := by
  rw [map_withPlatform_request, map_withPlatform_settingsFor,
    Settings.map_withPlatform_of_lookup h, request_name]
  unfold settingsFor
  cases Settings.ofEnvironment environment with
  | error e => rfl
  | ok s => rfl

/-! ## 3. Runs -/

section
variable {value : Text} {p : Platform} (hp : Platform.ofText? value = some p)
include hp

/-- A platform in any letter case has the provider of its name. -/
theorem providerFor_withPlatform (c : Subcommand) (settings : Settings) :
    providerFor c (settings.withPlatform p.name) = providerFor c (settings.withPlatform value) := by
  have hname : Provider.ofPlatform p.name = .ok p.provider := by
    unfold Provider.ofPlatform
    rw [Platform.ofText?_name]
  have hvalue : Provider.ofPlatform value = .ok p.provider := by
    unfold Provider.ofPlatform
    rw [hp]
  unfold providerFor Settings.withPlatform
  dsimp only
  rw [hname, hvalue]

/-- Two spellings of a platform make no difference to a job, as both have the same provider. -/
theorem Job.course_withPlatform (files : Resource.FileSystem) (settings : Settings) (job : Job) :
    job.course files (settings.withPlatform p.name) =
      job.course files (settings.withPlatform value) := by
  cases job with
  | parse declarations =>
    unfold Job.course
    dsimp only
    rw [providerFor_withPlatform hp]
  | resolve stylesheet classes raw =>
    unfold Job.course
    dsimp only
    rw [providerFor_withPlatform hp]
    rfl
  | inspect stylesheet => rfl

theorem Request.outcome_withPlatform (files : Resource.FileSystem) (r : Request) :
    (r.withPlatform p.name).outcome files = (r.withPlatform value).outcome files := by
  cases r with
  | version => rfl
  | help scope => rfl
  | run settings job =>
    unfold Request.withPlatform Request.outcome
    dsimp only
    rw [Job.course_withPlatform hp]
    rfl

/-- A choice does what the environment would do with the same name. -/
theorem run_platform_of_request {environment environment' : Environment}
    {c : Subcommand} {arguments arguments' : List Text}
    (h : (request environment (c.name :: arguments)).map (Request.withPlatform value) =
      request environment' arguments') (files : Resource.FileSystem) :
    run environment files ("--platform".toList :: value :: c.name :: arguments) =
      run environment' files arguments' := by
  unfold run
  rw [request_platform_eq_map hp, ← h]
  cases request environment (c.name :: arguments) with
  | error f => rfl
  | ok r => exact r.outcome_withPlatform hp files

end

/-- **A chosen platform hides the environment's.**  Take two environments that agree on everything
but the platform, which either may name, misname or leave out.  With a platform chosen on the
command line, in any letter case, the whole outcome of a command is the same in both; and it is the
outcome of the command without that choice in an environment that names the same platform. -/
theorem run_chosen_platform {environment environment' : Environment}
    (halike : environment.AlikeBut "CSSDECL_PLATFORM".toList environment') {value : Text}
    (hvalue : (Platform.ofText? value).isSome = true) (files : Resource.FileSystem)
    (c : Subcommand) (arguments : List Text) :
    let chosen (environment : Environment) : Outcome :=
      run environment files ("--platform".toList :: value :: c.name :: arguments)
    chosen environment = chosen environment' ∧
      (environment'.lookup "CSSDECL_PLATFORM".toList = some value →
        chosen environment = run environment' files (c.name :: arguments)) := by
  intro chosen
  obtain ⟨p, hp⟩ := Option.isSome_iff_exists.1 hvalue
  constructor
  · show run _ _ _ = run _ _ _
    unfold run
    rw [request_platform_eq_map hp, request_platform_eq_map hp,
      map_withPlatform_request_alike halike]
  · intro hlookup
    apply run_platform_of_request hp
    -- With the same platform written over both, the environments cannot be told apart.
    rw [map_withPlatform_request_alike halike, map_withPlatform_request_of_lookup hlookup]

/-- The environment misnames its platform, which alone makes the command fail. -/
theorem run_chosen_platform_misnamed :
    let environment : Environment :=
      [("CSSDECL_PLATFORM".toList, "nokia".toList), ("CSSDECL_LOG_LEVEL".toList, "debug".toList)]
    let environment' : Environment :=
      [("CSSDECL_LOG_LEVEL".toList, "debug".toList), ("CSSDECL_PLATFORM".toList, "UIKit".toList)]
    let files := (Resource.FileTree.mk []).fileSystem
    let arguments := ["color: link; colour: red".toList]
    let chosen (environment : Environment) : Outcome :=
      run environment files ("--platform".toList :: "UIKit".toList :: "parse".toList :: arguments)
    environment.AlikeBut "CSSDECL_PLATFORM".toList environment' ∧
      (Platform.ofText? "UIKit".toList).isSome = true ∧
      environment'.lookup "CSSDECL_PLATFORM".toList = some "UIKit".toList ∧
      (run environment files ("parse".toList :: arguments)).status = 2 ∧
      chosen environment = chosen environment' ∧
      chosen environment = run environment' files ("parse".toList :: arguments) := by
  intro environment environment' files arguments chosen
  have halike : environment.AlikeBut "CSSDECL_PLATFORM".toList environment' := by
    intro name hname
    have hkey : (name == "CSSDECL_PLATFORM".toList) = false := beq_false_of_ne hname
    simp only [environment, environment', List.lookup_cons, hkey]
  have hvalue : (Platform.ofText? "UIKit".toList).isSome = true := by decide +kernel
  have hlookup : environment'.lookup "CSSDECL_PLATFORM".toList = some "UIKit".toList := by
    decide +kernel
  have hstatus : (run environment files ("parse".toList :: arguments)).status = 2 := by
    decide +kernel
  obtain ⟨hsame, halone⟩ := run_chosen_platform halike hvalue files .parse arguments
  exact ⟨halike, hvalue, hlookup, hstatus, hsame, halone hlookup⟩

end Command
end Cascade
