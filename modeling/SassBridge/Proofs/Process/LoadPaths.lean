import SassBridge.Proofs.Engine.Snapshot
import SassBridge.Proofs.Process.Acts
import SassBridge.Proofs.Text.Split

/-! The load paths of the process. Settings and load paths are kept from when they were first read; both are forgotten
together. Whatever reads the settings first decides what the load paths start with. -/

namespace SassBridge

variable {κ σ ι : Type}

/-! What the environment says of load paths. -/

namespace Environment

/-- The path setting: the variable of its own name, or else the one with the start that settings have. -/
def sassPath (environment : Environment) : String :=
  ((environment.find? "sass_path").or (environment.find? "sassc_embedded_sass_path")).getD ""

/-- Whether paths are the segments between the colons of the path setting, in order, less those that are empty. -/
def Supplies (environment : Environment) (paths : List String) : Prop :=
  ∃ segments : List (List Char), segments ≠ [] ∧ [':'].intercalate segments = environment.sassPath.toList ∧
    (∀ segment ∈ segments, ':' ∉ segment) ∧ paths = (segments.filter (· ≠ [])).map String.ofList

/-- The paths are settled by the path setting. -/
theorem supplies_iff (environment : Environment) (paths : List String) :
    environment.Supplies paths ↔
      paths = ((Text.split ':' environment.sassPath.toList).filter (· ≠ [])).map String.ofList := by
  constructor
  · rintro ⟨segments, hne, hjoin, hsegments, rfl⟩
    rw [← hjoin, Text.split_intercalate ':' segments hne hsegments]
  · rintro rfl
    exact ⟨_, Text.split_ne_nil _ _, Text.intercalate_split _ _, fun _ => Text.not_mem_of_mem_split, rfl⟩

end Environment

namespace Settings

variable {environment : Environment} {settings : Settings}

/-- The path setting is text however it is set. -/
theorem checkGiven_sassPath (environment : Environment) :
    Validation.checkGiven Field.text "" "sass_path" (lookUp environment []
      ["SASS_PATH", "SASSC_EMBEDDED_SASS_PATH", "sass_path"] ["sass_path", "sassc_embedded_sass_path"]) =
      .valid environment.sassPath := by
  rw [Environment.sassPath, lookUp]
  cases hown : environment.find? "sass_path" with
  | some path => simp only [List.findSome?_cons, hown]; rfl
  | none =>
      cases hstarted : environment.find? "sassc_embedded_sass_path" with
      | some path => simp only [List.findSome?_cons, hown, hstarted]; rfl
      | none => simp only [List.findSome?_cons, hown, hstarted]; rfl

theorem sassPath_of_read (hread : read environment [] = .ok settings) : settings.sassPath = environment.sassPath := by
  dsimp only [read] at hread
  rw [checkGiven_sassPath] at hread
  generalize Validation.checkGiven Field.text "WARNING" _ _ = level at hread
  generalize Validation.checkGiven Field.truth false _ _ = json at hread
  cases level <;> cases json <;> cases hread
  rfl

theorem supplies_of_read (hread : read environment [] = .ok settings) : environment.Supplies settings.loadPaths := by
  rw [Environment.supplies_iff, loadPaths, sassPath_of_read hread]

end Settings

/-! What a render does to settings and load paths: it asks for the load paths, unless its template is empty. -/

namespace Surroundings

/-- The settings and the load paths, as far as they are known. -/
def known (surroundings : Surroundings κ) : Option Settings × Option (List String) :=
  (surroundings.settings?, surroundings.loadPaths?)

end Surroundings

namespace World

def known (world : World κ ι) : Option Settings × Option (List String) :=
  world.surroundings.known

theorem known_calmToEnd : CalmToEnd (known : World κ ι → Option Settings × Option (List String)) where
  note _ _ _ := rfl
  session _ _ _ := rfl
  shown _ _ _ _ := rfl

theorem chooseCompiler_keeps_known (isTrue : κ → Bool) :
    (Host.chooseCompiler isTrue : Step (World κ ι) κ).Keeps known := by
  refine .bind .get fun world => ?_
  cases world.engine.ownCompiler? isTrue with
  | some compiler => exact .pure compiler
  | none => exact fun _ => rfl

end World

theorem Host.known_render (host : Host κ σ ι) (world : World κ ι) :
    (host.render.run world).2.known =
      if world.engine.template.isTrue then (Surroundings.loadPaths.run world.surroundings).2.known
      else world.known := by
  rw [view_render_of_noted World.known_calmToEnd (fun _ _ => rfl), prepare_eq, Step.Keeps.view_run_bind World.known]
  · rw [World.loadPaths_run]
    rfl
  · intro loadPaths after _
    refine Step.Keeps.bind ?_ (fun url => ?_) after
    · intro world
      rw [World.fileUrl_run]
      rfl
    · exact World.known_calmToEnd.note.prepareAt (World.chooseCompiler_keeps_known host.isTrue) loadPaths url

/-! What the acts since the last reset say of load paths. -/

namespace Act

/-- Whether an act has a look at the settings. Not even a render does if its template is empty. -/
def readsSettings : Act κ σ ι → Bool
  | readSettings | setUpLogging _ _ | readLoadPaths | appendLoadPath _ => true
  | render _ engine => engine.template.isTrue
  | _ => false

def isReset : Act κ σ ι → Bool
  | resetLoadPaths => true
  | _ => false

end Act

namespace Moment

/-- Whether a moment gives access to settings that can be read. -/
def isAccess (moment : Moment κ σ ι) : Bool :=
  moment.act.readsSettings && (Settings.read moment.surroundings.environment []).isOk

/-- The environment at the first access to settings. -/
def accessed? (history : List (Moment κ σ ι)) : Option Environment :=
  (history.find? isAccess).map fun moment => moment.surroundings.environment

/-- The path that a moment appends, which it does if there is a list. -/
def appended? (moment : Moment κ σ ι) : Option String :=
  match moment.act with
  | .appendLoadPath path => if (Surroundings.loadPaths.run moment.surroundings).1.isOk then some path else none
  | _ => none

/-- Everything that was appended, in order. -/
def appended (history : List (Moment κ σ ι)) : List String :=
  history.filterMap appended?

/-- The settings of an environment, if they can be read. -/
def settingsIn? (environment : Environment) : Option Settings :=
  (Settings.read environment []).toOption

/-- How surroundings follow from the moments since the last reset: the settings are those of the first access, and
there are load paths only if there are settings. -/
structure Leads (history : List (Moment κ σ ι)) (surroundings : Surroundings κ) : Prop where
  settings? : surroundings.settings? = (accessed? history).bind settingsIn?
  loadPaths? : surroundings.loadPaths? = none ∧ appended history = [] ∨
    ∃ settings, surroundings.settings? = some settings ∧
      surroundings.loadPaths? = some (settings.loadPaths ++ appended history)

variable {history : List (Moment κ σ ι)} {moment : Moment κ σ ι} {surroundings later : Surroundings κ}

theorem accessed?_concat (history : List (Moment κ σ ι)) (moment : Moment κ σ ι) :
    accessed? (history ++ [moment]) =
      (accessed? history).or (if moment.isAccess then some moment.surroundings.environment else none) := by
  rw [accessed?, accessed?, List.find?_append]
  cases history.find? isAccess with
  | some first => rfl
  | none => cases haccess : moment.isAccess <;> simp [haccess]

theorem settingsIn?_of_accessed? {environment : Environment} (haccessed : accessed? history = some environment) :
    ∃ settings, Settings.read environment [] = .ok settings := by
  obtain ⟨first, hfirst, rfl⟩ := Option.map_eq_some_iff.mp haccessed
  have haccess : first.isAccess = true := List.find?_some hfirst
  rw [isAccess, Bool.and_eq_true] at haccess
  cases hread : Settings.read first.surroundings.environment [] with
  | ok settings => exact ⟨settings, rfl⟩
  | error failure =>
      rw [hread] at haccess
      cases haccess.2

theorem leads_nil (hsettings : surroundings.settings? = none) (hpaths : surroundings.loadPaths? = none) :
    Leads ([] : List (Moment κ σ ι)) surroundings :=
  ⟨hsettings, .inl ⟨hpaths, rfl⟩⟩

namespace Leads

/-- The settings come from the environment of the first access, or else from that of now. -/
theorem settingsNow_eq (hleads : Leads history surroundings) :
    surroundings.settingsNow = Settings.read ((accessed? history).getD surroundings.environment) [] := by
  rw [Surroundings.settingsNow, hleads.settings?]
  cases haccessed : accessed? history with
  | none => rfl
  | some environment =>
      obtain ⟨settings, hread⟩ := settingsIn?_of_accessed? haccessed
      rw [Option.bind_some, settingsIn?, hread, Option.getD_some, hread]
      rfl

/-- What was appended follows what the settings say. -/
theorem loadPathsNow_eq (hleads : Leads history surroundings) :
    surroundings.loadPathsNow =
      surroundings.settingsNow.map fun settings => settings.loadPaths ++ appended history := by
  rw [Surroundings.loadPathsNow]
  obtain ⟨hpaths, hnone⟩ | ⟨settings, hsettings, hpaths⟩ := hleads.loadPaths?
  · simp only [hpaths, hnone, List.append_nil]
  · rw [Surroundings.settingsNow, hpaths, hsettings]
    rfl

theorem settings?_concat (hleads : Leads history moment.surroundings) :
    (accessed? (history ++ [moment])).bind settingsIn? =
      if moment.act.readsSettings then moment.surroundings.settingsNow.toOption
      else moment.surroundings.settings? := by
  rw [accessed?_concat, hleads.settingsNow_eq, hleads.settings?, isAccess]
  cases haccessed : accessed? history with
  | some environment =>
      rw [Option.some_or]
      exact (ite_self _).symm
  | none =>
      cases moment.act.readsSettings with
      | false => rfl
      | true =>
          rw [Option.getD_none]
          cases hread : Settings.read moment.surroundings.environment [] with
          | ok settings => exact congrArg Except.toOption hread
          | error failure => rfl

/-- An act that leaves the list alone. -/
theorem of_same_paths (hleads : Leads history moment.surroundings)
    (hsettings : later.settings? = if moment.act.readsSettings then moment.surroundings.settingsNow.toOption
      else moment.surroundings.settings?)
    (hpaths : later.loadPaths? = moment.surroundings.loadPaths?) (happended : moment.appended? = none) :
    Leads (history ++ [moment]) later where
  settings? := hsettings.trans hleads.settings?_concat.symm
  loadPaths? := by
    have hsame : appended (history ++ [moment]) = appended history := by
      rw [appended, List.filterMap_append, List.filterMap_cons_none happended]
      exact List.append_nil _
    rw [hpaths, hsame]
    refine hleads.loadPaths?.imp id ?_
    rintro ⟨settings, hknown, hlist⟩
    refine ⟨settings, ?_, hlist⟩
    rw [hsettings, Surroundings.settingsNow, hknown]
    exact ite_self _

/-- An act that asks for the list, and then may append to it. -/
theorem of_loaded (hleads : Leads history moment.surroundings) (hreads : moment.act.readsSettings = true)
    (hsettings : later.settings? = moment.surroundings.settingsNow.toOption)
    (hpaths : later.loadPaths? = (moment.surroundings.loadPathsNow.map (· ++ moment.appended?.toList)).toOption)
    (hfailed : moment.surroundings.loadPathsNow.isOk = false → moment.appended? = none) :
    Leads (history ++ [moment]) later where
  settings? := by rw [hleads.settings?_concat, hreads, hsettings, if_pos rfl]
  loadPaths? := by
    have hmore : appended (history ++ [moment]) = appended history ++ moment.appended?.toList := by
      rw [appended, List.filterMap_append]
      cases happended : moment.appended? <;> simp [happended, appended]
    have hlist := hleads.loadPathsNow_eq
    rw [hpaths, hmore, hsettings]
    cases hnow : moment.surroundings.settingsNow with
    | ok settings =>
        rw [hnow] at hlist
        refine .inr ⟨settings, rfl, ?_⟩
        rw [hlist, ← List.append_assoc]
        rfl
    | error failure =>
        rw [hnow] at hlist
        rw [hlist] at hfailed ⊢
        rw [hfailed rfl]
        obtain ⟨-, hnone⟩ | ⟨settings, hknown, -⟩ := hleads.loadPaths?
        · exact .inl ⟨rfl, by rw [hnone]; rfl⟩
        · rw [Surroundings.settingsNow, hknown] at hnow
          cases hnow

/-- There is no list without settings. -/
theorem settings?_loadPaths (hleads : Leads history surroundings) :
    (Surroundings.loadPaths.run surroundings).2.settings? = surroundings.settingsNow.toOption := by
  rw [Surroundings.loadPaths_run]
  obtain ⟨hpaths, -⟩ | ⟨settings, hknown, hpaths⟩ := hleads.loadPaths?
  · simp only [hpaths, Option.isSome_none]
    rfl
  · simp only [hpaths, hknown, Surroundings.settingsNow]
    rfl

/-- One act. -/
theorem after (hleads : Leads history surroundings) {act : Act κ σ ι} (hreset : act.isReset = false) :
    Leads (history ++ [⟨surroundings, act⟩]) (surroundings.after act) := by
  have hpaths := Surroundings.loadPaths_run surroundings
  cases act with
  | changeEnvironment change => exact hleads.of_same_paths rfl rfl rfl
  | readSettings =>
      rw [Surroundings.after, Surroundings.settings_run]
      exact hleads.of_same_paths rfl rfl rfl
  | setUpLogging jsonLogs logLevel =>
      rw [Surroundings.after_setUpLogging, Surroundings.after, Surroundings.settings_run]
      exact hleads.of_same_paths rfl rfl rfl
  | readLoadPaths =>
      refine hleads.of_loaded rfl hleads.settings?_loadPaths ?_ (fun _ => rfl)
      rw [Surroundings.after, hpaths]
      cases surroundings.loadPathsNow <;> simp [appended?, Except.map, Except.toOption]
  | appendLoadPath path =>
      rw [Surroundings.after, Surroundings.appendLoadPath_run]
      have happended : appended? (⟨surroundings, .appendLoadPath path⟩ : Moment κ σ ι) =
          if surroundings.loadPathsNow.isOk then some path else none := by
        rw [appended?, hpaths]
      refine hleads.of_loaded rfl hleads.settings?_loadPaths ?_ ?_
      · rw [happended]
        cases surroundings.loadPathsNow <;> rfl
      · intro hfailed
        rw [happended, hfailed]
        rfl
  | resetLoadPaths => cases hreset
  | setCompiler compiler => exact hleads.of_same_paths rfl rfl rfl
  | changeEntryPoints entryPoints => exact hleads.of_same_paths rfl rfl rfl
  | getCompiler => exact hleads.of_same_paths rfl rfl rfl
  | render host engine =>
      have hknown := host.known_render ⟨surroundings, engine⟩
      cases htemplate : engine.template.isTrue with
      | false =>
          rw [htemplate] at hknown
          refine hleads.of_same_paths ?_ (congrArg Prod.snd hknown) rfl
          exact (congrArg Prod.fst hknown).trans (if_neg (by rw [Act.readsSettings, htemplate]; decide)).symm
      | true =>
          rw [if_pos htemplate] at hknown
          have hsettings := (congrArg Prod.fst hknown).trans hleads.settings?_loadPaths
          refine hleads.of_loaded htemplate hsettings ?_ (fun _ => rfl)
          refine (congrArg Prod.snd hknown).trans ?_
          rw [Surroundings.known, hpaths]
          cases surroundings.loadPathsNow <;> simp [appended?, Except.map, Except.toOption]

end Leads

/-- The surroundings after some acts follow from the acts since the last reset. -/
theorem leads_afterAll (cwd : String) (environment : Environment) (registry : Registry κ) (acts : List (Act κ σ ι)) :
    let start := Surroundings.start cwd environment registry
    Leads (since Act.isReset (start.moments acts)) (start.afterAll acts) := by
  intro start
  induction acts using List.reverseRecOn with
  | nil => exact leads_nil rfl rfl
  | append_singleton acts act ih =>
      rw [Surroundings.moments_concat, Surroundings.afterAll_concat]
      cases hreset : act.isReset with
      | false =>
          rw [since_concat hreset]
          exact ih.after hreset
      | true =>
          rw [since_concat_of_anew hreset]
          cases act with
          | resetLoadPaths => exact leads_nil rfl rfl
          | _ => cases hreset

end Moment

/-- The load paths are those of the settings as they were at the first access since the last reset, whatever made it,
followed by everything that was appended since. A render that comes to the compiler sends the configured load paths and
then this list, and no render changes the list. -/
theorem Host.loadPaths_history (cwd : String) (environment : Environment) (registry : Registry κ)
    (acts : List (Act κ σ ι)) :
    let start := Surroundings.start cwd environment registry
    let before := start.afterAll acts
    let recent := Moment.since Act.isReset (start.moments acts)
    let source := (Moment.accessed? recent).getD before.environment
    let list := (Surroundings.loadPaths.run before).1
    (∀ settings, Settings.read source [] = .ok settings →
      ∃ paths, source.Supplies paths ∧ list = .ok (paths ++ Moment.appended recent)) ∧
    (∀ failure, Settings.read source [] = .error failure → list = .error failure) ∧
    ∀ (host : Host κ σ ι) (engine : Engine κ ι),
      let ended := (host.render.run ⟨before, engine⟩).2
      (∃ request?, ended.requests = before.journal.requests ++ Option.toList request? ∧
        ∀ request, request? = some request →
          ∃ paths, list = .ok paths ∧ request.loadPaths = engine.options.loadPaths ++ paths) ∧
      (Surroundings.loadPaths.run ended.surroundings).1 = list := by
  intro start before recent source list
  have hleads : Moment.Leads recent before := Moment.leads_afterAll cwd environment registry acts
  have hlist : list = (Settings.read source []).map fun settings => settings.loadPaths ++ Moment.appended recent := by
    change (Surroundings.loadPaths.run before).1 = _
    rw [Surroundings.loadPaths_run, hleads.loadPathsNow_eq, hleads.settingsNow_eq]
  refine ⟨?_, ?_, ?_⟩
  · intro settings hread
    rw [hread] at hlist
    exact ⟨settings.loadPaths, Settings.supplies_of_read hread, hlist⟩
  · intro failure hread
    rw [hread] at hlist
    exact hlist
  · intro host engine ended
    refine ⟨⟨_, host.requests_render ⟨before, engine⟩, ?_⟩, ?_⟩
    · intro request hrequest
      obtain ⟨prepared, hprepared, rfl⟩ := Option.map_eq_some_iff.mp hrequest
      obtain ⟨-, ready, hprepare⟩ := exists_run_of_prepared? hprepared
      obtain ⟨shared, hshared, hsettles⟩ := (prepares_of_prepare hprepare).settles (.refl engine)
      exact ⟨shared, hshared, hsettles.loadPaths⟩
    · exact congrArg Outlook.loadPaths (host.outlook_render ⟨before, engine⟩)

/-- Logging that is set up reads the settings, so that what is set later comes too late. -/
theorem Host.loadPaths_history_logged :
    let acts : List (Act Unit Unit Unit) := [.changeEnvironment (·.set "SASS_PATH" "a::b"), .setUpLogging .null .null,
      .changeEnvironment (·.set "SASS_PATH" "c"), .appendLoadPath "d"]
    (Surroundings.loadPaths.run ((Surroundings.start "/work/project" [] ⟨none, []⟩).afterAll acts)).1 =
      .ok ["a", "b", "d"] := by
  intro acts
  obtain ⟨hread, -, -⟩ := loadPaths_history "/work/project" [] ⟨none, []⟩ acts
  obtain ⟨paths, hpaths, hlist⟩ := hread ⟨"a::b", "WARNING", false⟩ rfl
  rw [Environment.supplies_iff] at hpaths
  have hsupplied : paths = ["a", "b"] := hpaths.trans (by decide +kernel)
  rw [hsupplied] at hlist
  exact hlist.trans (congrArg (fun more => Except.ok (["a", "b"] ++ more))
    (show Moment.appended _ = ["d"] by decide +kernel))

end SassBridge
