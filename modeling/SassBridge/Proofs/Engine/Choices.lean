import SassBridge.Proofs.Engine.Repeat
import SassBridge.Proofs.Function.Listing
import SassBridge.Proofs.Process.Registry

/-! What an engine may choose: a style, a function set, an importer and a language. They are looked at in this order,
before there is a request. -/

namespace SassBridge

variable {κ σ ι : Type}

/-! Names of styles and languages. -/

namespace OutputStyle

/-- What a style may be called in the options. -/
def optionNames : OutputStyle → List String
  | expanded => ["nested", "expanded", "sass_style_nested", "sass_style_expanded"]
  | compressed => ["compact", "compressed", "sass_style_compact", "sass_style_compressed"]

/-- A legacy name may have the start or not; the style is the same. -/
theorem exists_mem_optionNames_of_short {short : String}
    (hshort : short ∈ ["nested", "expanded", "compact", "compressed"]) :
    ∃ style : OutputStyle, short ∈ style.optionNames ∧ legacyStart ++ short ∈ style.optionNames := by
  simp only [List.mem_cons, List.not_mem_nil, or_false] at hshort
  rcases hshort with rfl | rfl | rfl | rfl
  · exact ⟨expanded, by decide⟩
  · exact ⟨expanded, by decide⟩
  · exact ⟨compressed, by decide⟩
  · exact ⟨compressed, by decide⟩

/-- A style whose full name is a legacy one is called by that name, or by what follows the start of it. -/
theorem exists_mem_optionNames {text : String} (htext : fullName text ∈ fullNames) :
    ∃ style : OutputStyle, text ∈ style.optionNames := by
  have hfull : fullNames = ["nested", "expanded", "compact", "compressed"].map (legacyStart ++ ·) := by decide
  rw [hfull, List.mem_map] at htext
  obtain ⟨short, hshort, hsame⟩ := htext
  obtain ⟨style, hbare, hstarted⟩ := exists_mem_optionNames_of_short hshort
  refine ⟨style, ?_⟩
  rw [fullName] at hsame
  split at hsame
  · rwa [← hsame]
  · rwa [← (String.append_right_inj legacyStart).mp hsame]

variable {option : Datum} {style : OutputStyle}

theorem ofOption_of_mem (htext : option.untaggedText ∈ style.optionNames) : ofOption option = .ok style := by
  rw [ofOption]
  generalize option.untaggedText = text at htext
  cases style <;> simp only [optionNames, List.mem_cons, List.not_mem_nil, or_false] at htext <;>
    rcases htext with rfl | rfl | rfl | rfl <;> rfl

theorem ofOption_of_not_mem (htext : ∀ style : OutputStyle, option.untaggedText ∉ style.optionNames) :
    ofOption option = .error (.invalidStyle (fullName option.untaggedText)) := by
  refine if_neg fun hfull => ?_
  obtain ⟨style, hstyle⟩ := exists_mem_optionNames hfull
  exact htext style hstyle

theorem ofOption_eq_ok_iff : ofOption option = .ok style ↔ option.untaggedText ∈ style.optionNames := by
  refine ⟨fun hoption => ?_, ofOption_of_mem⟩
  by_cases hnamed : ∃ style : OutputStyle, option.untaggedText ∈ style.optionNames
  · obtain ⟨named, hnamed⟩ := hnamed
    obtain rfl := Except.ok.inj ((ofOption_of_mem hnamed).symm.trans hoption)
    exact hnamed
  · rw [ofOption_of_not_mem (not_exists.mp hnamed)] at hoption
    cases hoption

end OutputStyle

namespace Language

/-- What a language may be called in the options. -/
def optionNames : Language → List String
  | scss => ["scss"]
  | indented => ["sass", "indented"]
  | css => ["css"]

theorem ofName?_eq_some_iff {name : String} {language : Language} :
    ofName? name = some language ↔ name = language.name := by
  constructor
  · intro hname
    unfold ofName? at hname
    split at hname <;> cases hname <;> rfl
  · rintro rfl
    cases language <;> rfl

end Language

namespace Engine

theorem ofName?_languageName_iff {engine : Engine κ ι} {language : Language} :
    Language.ofName? engine.languageName = some language ↔ engine.options.language ∈ language.optionNames := by
  rw [Language.ofName?_eq_some_iff, languageName]
  generalize engine.options.language = text
  by_cases htext : text = "sass"
  · rw [if_pos htext, htext]
    cases language <;> decide
  · rw [if_neg htext]
    cases language <;> simp [Language.name, Language.optionNames, htext]

end Engine

/-! What is read of the options that name them. -/

namespace Validation

variable {α β : Type}

theorem map_eq_valid_iff {f : α → β} {validation : Validation α} {value : β} :
    f <$> validation = valid value ↔ ∃ a, validation = valid a ∧ f a = value := by
  cases validation with
  | valid a =>
      change valid (f a) = _ ↔ _
      simp
  | invalid errors =>
      change invalid errors = _ ↔ _
      simp

theorem seq_eq_valid_iff {functions : Validation (α → β)} {validation : Validation α} {value : β} :
    functions <*> validation = valid value ↔ ∃ f, functions = valid f ∧ ∃ a, validation = valid a ∧ f a = value := by
  change apply functions validation = _ ↔ _
  cases functions <;> cases validation <;> simp [apply]

theorem toExcept_eq_ok_iff {record : Checked} {validation : Validation α} {value : α} :
    validation.toExcept record = .ok value ↔ validation = valid value := by
  cases validation <;> simp [toExcept]

/-- A field that is taken as it is. -/
theorem checkGiven_any {name : String} {default value : Datum} {given : Option Datum}
    (hgiven : checkGiven Field.any default name given = valid value) : value = given.getD default := by
  cases given with
  | none => exact (valid.inj hgiven).symm
  | some given => exact (valid.inj hgiven).symm

end Validation

namespace Bag

/-- The text of the style that a bag asks for. -/
def styleText (bag : Bag) : String :=
  ((bag.get? "style").getD (.text "sass_style_nested")).untaggedText

/-- The text of the language that a bag asks for. -/
def languageText (bag : Bag) : String :=
  match bag.get? "syntax" with
  | none | some .null => "scss"
  | some language => language.untaggedText

end Bag

namespace EngineOptions

/-- Whether options choose what a bag asks for. -/
structure Chooses (options : EngineOptions) (bag : Bag) : Prop where
  style : options.style.untaggedText = bag.styleText
  language : options.language = bag.languageText
  functions : options.functions = (bag.get? "functions").getD .null

theorem chooses_of_ofBag {bag : Bag} {options : EngineOptions} (hread : ofBag bag = .ok options) :
    options.Chooses bag := by
  obtain ⟨loadPaths, -, hvalid⟩ := Lists.bind_ok_iff.mp hread
  rw [Validation.toExcept_eq_ok_iff, validate] at hvalid
  simp only [Validation.seq_eq_valid_iff, Validation.map_eq_valid_iff] at hvalid
  -- from the last field back to the functions, and from there to the style and the language
  obtain ⟨_, ⟨_, ⟨_, ⟨_, ⟨_, ⟨_, ⟨_, ⟨_, ⟨_, hvalid, functions, hfunctions, rfl⟩, _, -, rfl⟩, _, -, rfl⟩,
    _, -, rfl⟩, _, -, rfl⟩, _, -, rfl⟩, _, -, rfl⟩, _, -, rfl⟩, _, -, rfl⟩ := hvalid
  obtain ⟨_, ⟨_, ⟨_, ⟨_, ⟨_, ⟨_, ⟨_, ⟨_, -, rfl⟩, language, hlanguage, rfl⟩, style, hstyle, rfl⟩,
    _, -, rfl⟩, _, -, rfl⟩, _, -, rfl⟩, _, -, rfl⟩, _, -, rfl⟩ := hvalid
  refine ⟨congrArg Datum.untaggedText (Validation.checkGiven_any hstyle), ?_, Validation.checkGiven_any hfunctions⟩
  rw [Bag.languageText]
  cases hgiven : bag.get? "syntax" with
  | none =>
      rw [hgiven] at hlanguage
      exact (Validation.valid.inj hlanguage).symm
  | some given =>
      rw [hgiven] at hlanguage
      cases given <;> exact (Validation.valid.inj hlanguage).symm

namespace Chooses

variable {engine : Engine κ ι} {bag : Bag} (hchooses : engine.options.Chooses bag)

include hchooses

theorem style_eq_ok_iff {style : OutputStyle} : engine.style = .ok style ↔ bag.styleText ∈ style.optionNames := by
  rw [Engine.style, OutputStyle.ofOption_eq_ok_iff, hchooses.style]

theorem style_of_not_mem (hnone : ∀ style : OutputStyle, bag.styleText ∉ style.optionNames) :
    engine.style = .error (.invalidStyle (OutputStyle.fullName bag.styleText)) := by
  rw [← hchooses.style] at hnone ⊢
  exact OutputStyle.ofOption_of_not_mem hnone

theorem language_iff {language : Language} :
    Language.ofName? engine.languageName = some language ↔ bag.languageText ∈ language.optionNames := by
  rw [Engine.ofName?_languageName_iff, hchooses.language]

theorem language_of_not_mem (hnone : ∀ language : Language, bag.languageText ∉ language.optionNames) :
    Language.ofName? engine.languageName = none :=
  Option.eq_none_iff_forall_not_mem.mpr fun language hnamed => hnone language (hchooses.language_iff.mp hnamed)

end Chooses

end EngineOptions

/-! The function set and the importer. All that can be wrong with them is that there are no instances of them. -/

namespace FunctionSet

/-- Every listed function has a signature. -/
theorem exists_table_of_names (set : FunctionSet σ) : ∃ table, set.table = .ok table := by
  have hrow : ∀ name ∈ set.names, ∃ row, set.IsRow name row := fun name => exists_isRow
  obtain ⟨rows, hrows⟩ := Lists.exists_forall₂_iff.mpr hrow
  refine ⟨_, Lists.return_ok_iff.mpr ⟨rows, Lists.mapM_ok_iff.mpr ?_, rfl⟩⟩
  exact hrows.imp fun name row => signed_of_isRow

end FunctionSet

namespace FunctionSession

variable {set : FunctionSet σ} {bag : Bag}

/-- A function set is in use once there is an instance of it. -/
theorem start_eq (set : FunctionSet σ) (bag : Bag) : ∃ started, ∀ made, set.instantiate bag = made →
    start set bag = made.map started := by
  obtain ⟨table, htable⟩ := set.exists_table_of_names
  refine ⟨fun receiver => ⟨set, table, ⟨receiver.state, if receiver.options.isSome then .shared else .missing⟩⟩, ?_⟩
  rintro (failure | receiver) hmade
  · rw [start, hmade]
    rfl
  · rw [start, hmade, htable]
    rfl

end FunctionSession

namespace ImporterSession

variable {importer : LegacyImporter ι} {existing : Held ι} {bag : Bag}

/-- Only a class can fail to give an importer. -/
theorem isOk_start (hclass : bag.get? "importer" ≠ some (.host .importerClass)) :
    (start importer existing bag).isOk = true := by
  rw [start.eq_def]
  split
  · rfl
  · rfl
  · contradiction
  · rfl
  · rfl

end ImporterSession

namespace Host

/-- The instance of the function set that a render makes, if it can be made. -/
def functionInstance (host : Host κ σ ι) (world : World κ ι) : Except Failure (Receiver σ) := do
  (← host.functionSet world.engine.options.functions).instantiate world.engine.bag

/-- The importer that a render uses, if it can be made. -/
def importerInstance (host : Host κ σ ι) (world : World κ ι) : Except Failure (Option (ImporterSession ι)) :=
  ImporterSession.start host.importer world.engine.importer world.engine.bag

variable {host : Host κ σ ι} {world : World κ ι} {failure : Failure}

/-- Without a function set of its own a render makes an instance of the empty one. -/
theorem exists_functionInstance_of_null (hnull : world.engine.options.functions = .null) :
    ∃ receiver, host.functionInstance world = .ok receiver := by
  refine ⟨⟨some world.engine.bag, host.functions.initial⟩, ?_⟩
  rw [functionInstance, hnull]
  rfl

theorem startSession_of_no_instance (hinstance : host.functionInstance world = .error failure) :
    host.startSession.run world = (.error failure, world) := by
  rw [startSession, Step.run_get_bind]
  rcases Lists.bind_error_iff.mp hinstance with hset | ⟨set, hset, hmade⟩
  · exact Step.run_bind_of_error (congrArg (Prod.mk · world) hset) _
  · obtain ⟨started, hstarted⟩ := FunctionSession.start_eq set world.engine.bag
    refine (Step.run_bind_of_ok (congrArg (Prod.mk · world) hset) _).trans ?_
    exact Step.run_bind_of_error (congrArg (Prod.mk · world) (hstarted _ hmade)) _

/-- Once there is an instance of the function set, all depends on the importer. -/
theorem startSession_of_instance {receiver : Receiver σ} (hinstance : host.functionInstance world = .ok receiver) :
    ∃ started entries, host.startSession.run world =
      ((host.importerInstance world).map started, world.noted entries) := by
  obtain ⟨set, hset, hmade⟩ := Lists.bind_ok_iff.mp hinstance
  obtain ⟨started, hstarted⟩ := FunctionSession.start_eq set world.engine.bag
  refine ⟨fun importer => ⟨world.surroundings.cwd, world.engine.bag, started receiver, importer, []⟩,
    [.reported (.functionsRegistered (started receiver).table.signatures)], ?_⟩
  rw [startSession, Step.run_get_bind]
  refine (Step.run_bind_of_ok (congrArg (Prod.mk · world) hset) _).trans ?_
  refine (Step.run_bind_of_ok (congrArg (Prod.mk · world) (hstarted _ hmade)) _).trans ?_
  rfl

end Host

/-! What comes before a request, choice by choice. -/

namespace World

/-- A world in which a render has its load paths and the URL of its template. -/
def readied (world : World κ ι) : World κ ι where
  surroundings := (Surroundings.loadPaths.run world.surroundings).2
  engine := { world.engine with fileUrl? := some world.templateUrl }

theorem exists_loadPaths_of_settings {surroundings : Surroundings κ}
    (hsettings : (Settings.read surroundings.environment []).isOk) :
    ∃ paths, (Surroundings.loadPaths.run surroundings).1 = .ok paths := by
  rw [Surroundings.loadPaths_run, Surroundings.loadPathsNow, Surroundings.settingsNow]
  cases surroundings.loadPaths? with
  | some paths => exact ⟨paths, rfl⟩
  | none =>
      cases surroundings.settings? with
      | some settings => exact ⟨settings.loadPaths, rfl⟩
      | none =>
          cases hread : Settings.read surroundings.environment [] with
          | ok settings => exact ⟨settings.loadPaths, rfl⟩
          | error failure =>
              rw [hread] at hsettings
              cases hsettings

end World

namespace Host

section Draft

variable {host : Host κ σ ι} {world : World κ ι} {shared : List String} {style : OutputStyle} {receiver : Receiver σ}
  {failure : Failure} (hshared : (Surroundings.loadPaths.run world.surroundings).1 = .ok shared)

include hshared

theorem draft_run : host.draft.run world =
    (host.draftAt (world.engine.options.loadPaths ++ shared) world.templateUrl).run world.readied := by
  have hpaths := World.loadPaths_run world
  have hurl : ((World.loadPaths : Step (World κ ι) _).run world).2.templateUrl = world.templateUrl :=
    World.templateUrl_steady.loadPaths world
  rw [hpaths] at hurl
  rw [hshared] at hpaths
  rw [draft, Step.run_bind_of_ok hpaths, Step.run_bind_of_ok (World.fileUrl_run _), hurl]
  rfl

theorem draft_of_no_style (hstyle : world.engine.style = .error failure) :
    host.draft.run world = (.error failure, world.readied) := by
  rw [draft_run hshared, draftAt, Step.run_get_bind]
  exact Step.run_bind_of_error (congrArg (Prod.mk · world.readied) hstyle) _

theorem draft_of_style (hstyle : world.engine.style = .ok style) : host.draft.run world =
    (do
      let session ← host.startSession
      let request ← .ofExcept (request (← Step.get).engine (world.engine.options.loadPaths ++ shared)
        world.templateUrl style session)
      return ⟨world.templateUrl, style, request, session⟩ : Step (World κ ι) (Draft σ ι)).run world.readied := by
  rw [draft_run hshared, draftAt, Step.run_get_bind]
  exact Step.run_bind_of_ok (congrArg (Prod.mk · world.readied) hstyle) _

theorem draft_of_no_instance (hstyle : world.engine.style = .ok style)
    (hinstance : host.functionInstance world = .error failure) :
    host.draft.run world = (.error failure, world.readied) := by
  have hreadied : host.functionInstance world.readied = .error failure := hinstance
  rw [draft_of_style hshared hstyle]
  exact Step.run_bind_of_error (startSession_of_no_instance hreadied) _

theorem draft_of_no_importer (hstyle : world.engine.style = .ok style)
    (hinstance : host.functionInstance world = .ok receiver)
    (himporter : host.importerInstance world = .error failure) :
    (host.draft.run world).1 = .error failure := by
  have hreadied : host.functionInstance world.readied = .ok receiver := hinstance
  have hmissing : host.importerInstance world.readied = .error failure := himporter
  obtain ⟨started, entries, hstart⟩ := startSession_of_instance hreadied
  rw [hmissing] at hstart
  rw [draft_of_style hshared hstyle]
  exact Step.outcome_bind_of_error (congrArg Prod.fst hstart) _

theorem draft_of_instances {importer? : Option (ImporterSession ι)} (hstyle : world.engine.style = .ok style)
    (hinstance : host.functionInstance world = .ok receiver)
    (himporter : host.importerInstance world = .ok importer?) :
    ∃ session entries, host.draft.run world =
      ((request world.engine (world.engine.options.loadPaths ++ shared) world.templateUrl style session).map
        fun request => ⟨world.templateUrl, style, request, session⟩, world.readied.noted entries) := by
  have hreadied : host.functionInstance world.readied = .ok receiver := hinstance
  have hmade : host.importerInstance world.readied = .ok importer? := himporter
  obtain ⟨started, entries, hstart⟩ := startSession_of_instance hreadied
  rw [hmade] at hstart
  refine ⟨started importer?, entries, ?_⟩
  have hrequest : request (world.readied.noted entries).engine (world.engine.options.loadPaths ++ shared)
      world.templateUrl style (started importer?) =
        request world.engine (world.engine.options.loadPaths ++ shared) world.templateUrl style (started importer?) :=
    request_congr rfl rfl _ _ _ _
  rw [draft_of_style hshared hstyle, Step.run_bind_of_ok hstart, Step.run_get_bind, hrequest]
  cases request world.engine (world.engine.options.loadPaths ++ shared) world.templateUrl style (started importer?) <;>
    rfl

end Draft

section Request

variable {engine : Engine κ ι} {loadPaths : List String} {url source : String} {style : OutputStyle}
  {session : Session σ ι}

theorem request_of_language {language : Language} (htemplate : engine.template = .text source)
    (hlanguage : Language.ofName? engine.languageName = some language) :
    ∃ made, request engine loadPaths url style session = .ok made ∧ made.style = style ∧ made.language = language := by
  rw [request, requestSource, requestLanguage, htemplate, hlanguage]
  exact ⟨_, rfl, rfl, rfl⟩

theorem request_of_no_language (htemplate : engine.template = .text source)
    (hlanguage : Language.ofName? engine.languageName = none) :
    request engine loadPaths url style session = .error (.invalidFields .request [⟨"syntax", .unknownLiteral⟩]) := by
  rw [request, requestSource, requestLanguage, htemplate, hlanguage]
  rfl

end Request

/-- A render ends where it cannot prepare a request. -/
theorem render_of_no_draft_run {host : Host κ σ ι} {world after : World κ ι} {failure : Failure}
    (htemplate : world.engine.template.isTrue) (hdraft : host.draft.run world = (.error failure, after)) :
    host.render.run world = (.error failure, after) := by
  have hprepare : host.prepare.run world = (.error failure, after) := by
    rw [prepare_eq_draft]
    exact Step.run_bind_of_error hdraft _
  have hcompiled : host.compiled.run world = (.error failure, after) := Step.run_bind_of_error hprepare _
  rw [render, Step.run_get_bind, if_pos htemplate, renderTemplate_eq]
  exact Step.run_bind_of_error hcompiled _

section Render

variable {host : Host κ σ ι} {world : World κ ι} {shared : List String} {style : OutputStyle} {receiver : Receiver σ}
  {source : String} {failure : Failure} (hshared : (Surroundings.loadPaths.run world.surroundings).1 = .ok shared)
  (htemplate : world.engine.template = .text source) (hsource : source ≠ "")

include htemplate hsource in
theorem isTrue_of_source : world.engine.template.isTrue = true := by
  rw [htemplate]
  exact decide_eq_true hsource

include hshared htemplate hsource

/-- A wrong style ends a render before the host is asked for anything. -/
theorem render_of_no_style (hstyle : world.engine.style = .error failure) :
    host.render.run world = (.error failure, world.readied) :=
  render_of_no_draft_run (isTrue_of_source htemplate hsource) (draft_of_no_style hshared hstyle)

theorem render_of_no_instance (hstyle : world.engine.style = .ok style)
    (hinstance : host.functionInstance world = .error failure) :
    host.render.run world = (.error failure, world.readied) :=
  render_of_no_draft_run (isTrue_of_source htemplate hsource) (draft_of_no_instance hshared hstyle hinstance)

theorem render_of_no_importer (hstyle : world.engine.style = .ok style)
    (hinstance : host.functionInstance world = .ok receiver)
    (himporter : host.importerInstance world = .error failure) :
    (host.render.run world).1 = .error failure := by
  have hdraft := draft_of_no_importer hshared hstyle hinstance himporter
  exact congrArg Prod.fst (render_of_no_draft_run (isTrue_of_source htemplate hsource) (Prod.ext hdraft rfl))

theorem render_of_no_language {importer? : Option (ImporterSession ι)} (hstyle : world.engine.style = .ok style)
    (hinstance : host.functionInstance world = .ok receiver) (himporter : host.importerInstance world = .ok importer?)
    (hlanguage : Language.ofName? world.engine.languageName = none) :
    (host.render.run world).1 = .error (.invalidFields .request [⟨"syntax", .unknownLiteral⟩]) := by
  obtain ⟨session, entries, hdraft⟩ := draft_of_instances hshared hstyle hinstance himporter
  rw [request_of_no_language htemplate hlanguage] at hdraft
  rw [render_of_no_draft_run (isTrue_of_source htemplate hsource) hdraft]

/-- A render whose choices are all right has a request that says so, if there is a compiler for it. -/
theorem exists_request_of_choices {language : Language} {compiler : κ} {importer? : Option (ImporterSession ι)}
    (hstyle : world.engine.style = .ok style) (hinstance : host.functionInstance world = .ok receiver)
    (himporter : host.importerInstance world = .ok importer?)
    (hlanguage : Language.ofName? world.engine.languageName = some language)
    (hchoice : world.choice host.isTrue = .ok compiler) :
    ∃ request, host.request? world = some request ∧ request.style = style ∧ request.language = language := by
  obtain ⟨session, entries, hdraft⟩ := draft_of_instances hshared hstyle hinstance himporter
  obtain ⟨made, hmade, hstyled, hworded⟩ := request_of_language htemplate hlanguage
  rw [hmade] at hdraft
  have hprepare := outcome_prepare_of_draft hdraft
  rw [hchoice] at hprepare
  refine ⟨made, ?_, hstyled, hworded⟩
  rw [request?, prepared?, if_pos (isTrue_of_source htemplate hsource), hprepare]
  rfl

end Render

theorem Prepares.exists_instances {host : Host κ σ ι} {world : World κ ι} {prepared : Prepared κ σ ι}
    (hprepares : host.Prepares world prepared) :
    (host.functionInstance world).isOk = true ∧ (host.importerInstance world).isOk = true := by
  obtain ⟨set, functions, hset, hfunctions, hsession⟩ := hprepares.session
  obtain ⟨receiver, hreceiver, -⟩ := Lists.bind_ok_iff.mp hfunctions
  obtain ⟨importer?, himporter, -⟩ := Lists.bind_ok_iff.mp hsession
  exact ⟨congrArg Except.isOk (Lists.bind_ok_iff.mpr ⟨set, hset, hreceiver⟩), congrArg Except.isOk himporter⟩

/-- What a request says of the choices. -/
theorem choices_of_request {host : Host κ σ ι} {world : World κ ι} {request : Request}
    (hrequest : host.request? world = some request) :
    world.engine.style = .ok request.style ∧ (host.functionInstance world).isOk = true ∧
      (host.importerInstance world).isOk = true ∧
      Language.ofName? world.engine.languageName = some request.language := by
  obtain ⟨prepared, hprepared, rfl⟩ := Option.map_eq_some_iff.mp hrequest
  obtain ⟨-, ready, hprepare⟩ := exists_run_of_prepared? hprepared
  have hprepares := prepares_of_prepare hprepare
  obtain ⟨shared, -, hsettles⟩ := hprepares.settles (.refl world.engine)
  obtain ⟨hfunctions, himporter⟩ := hprepares.exists_instances
  exact ⟨hsettles.style, hfunctions, himporter, hsettles.language⟩

theorem exists_request_iff {host : Host κ σ ι} {world : World κ ι} {shared : List String} {source : String}
    {compiler : κ} (hshared : (Surroundings.loadPaths.run world.surroundings).1 = .ok shared)
    (htemplate : world.engine.template = .text source) (hsource : source ≠ "")
    (hchoice : world.choice host.isTrue = .ok compiler) :
    (∃ request, host.request? world = some request) ↔ (∃ style, world.engine.style = .ok style) ∧
      (host.functionInstance world).isOk ∧ (host.importerInstance world).isOk ∧
      ∃ language, Language.ofName? world.engine.languageName = some language := by
  constructor
  · rintro ⟨request, hrequest⟩
    obtain ⟨hstyle, hfunctions, himporter, hlanguage⟩ := choices_of_request hrequest
    exact ⟨⟨_, hstyle⟩, hfunctions, himporter, _, hlanguage⟩
  · rintro ⟨⟨style, hstyle⟩, hmade, hfound, language, hlanguage⟩
    obtain ⟨receiver, hinstance⟩ := Lists.exists_ok_of_isOk hmade
    obtain ⟨importer?, himporter⟩ := Lists.exists_ok_of_isOk hfound
    obtain ⟨request, hrequest, -⟩ :=
      exists_request_of_choices hshared htemplate hsource hstyle hinstance himporter hlanguage hchoice
    exact ⟨request, hrequest⟩

/-- What is handed to the compiler is the request. -/
theorem requests_render_eq_iff {host : Host κ σ ι} {world : World κ ι} {request : Request} :
    (host.render.run world).2.requests = world.requests ++ [request] ↔ host.request? world = some request := by
  rw [requests_render, List.append_cancel_left_eq]
  cases host.request? world <;> simp

/-- A render that does not call the compiler leaves what the engine shows. -/
theorem shown_of_no_request {host : Host κ σ ι} {world : World κ ι} (hrequest : host.request? world = none) :
    (host.render.run world).2.requests = world.requests ∧
      (host.render.run world).2.engine.dependencies = world.engine.dependencies ∧
      (host.render.run world).2.engine.sourceMap = world.engine.sourceMap := by
  have hrendering : host.rendering? world = none := by
    by_contra hrendering
    obtain ⟨rendering, hrendering⟩ := Option.ne_none_iff_exists'.mp hrendering
    obtain ⟨htemplate, after, -, hcompiled, -⟩ := exists_compiled_of_rendering hrendering
    obtain ⟨prepared, ready, hprepare, -⟩ := Step.exists_of_run_bind_ok hcompiled
    rw [request?, prepared?, if_pos htemplate, hprepare] at hrequest
    cases hrequest
  have hstanding := host.standing_render world
  rw [hrendering, Standing.keep] at hstanding
  have hrendered : (host.render.run world).2.engine.rendered = world.engine.rendered :=
    congrArg Standing.rendered hstanding
  have hdependencies : (host.render.run world).2.engine.dependencies? = world.engine.dependencies? :=
    congrArg Standing.dependencies? hstanding
  have hmap : (host.render.run world).2.engine.sourceMap? = world.engine.sourceMap? :=
    congrArg Standing.sourceMap? hstanding
  refine ⟨?_, ?_, ?_⟩
  · rw [requests_render, hrequest, Option.toList_none, List.append_nil]
  · rw [Engine.dependencies, Engine.dependencies, hrendered, hdependencies]
  · rw [Engine.sourceMap, Engine.sourceMap, hrendered, hmap]

end Host

namespace Engine

theorem compiler?_afterAll (engine : Engine κ ι) (occasions : List (Occasion κ σ ι)) :
    (engine.afterAll occasions).compiler? = engine.compiler? := by
  induction occasions generalizing engine with
  | nil => rfl
  | cons occasion occasions ih =>
      have hstanding := occasion.host.standing_render (engine.worldOn occasion)
      have hkept := congrArg Standing.compiler? hstanding
      rw [(Standing.keep_same _ _).2.2] at hkept
      rw [afterAll, ih]
      exact hkept

/-- Options for compact output of indented source, with functions. -/
def compactBag : Bag :=
  [("style", .tagged (.text "compact")), ("syntax", .text "sass"), ("functions", .host .functionSet)]

/-- A new engine with these options. -/
def compact : Engine Unit Unit :=
  { plain with
    bag := compactBag
    options := { plain.options with
      style := .tagged (.text "compact")
      language := "sass"
      functions := .host .functionSet } }

/-- Options with functions and the class of an importer. -/
def sealedBag : Bag :=
  [("functions", .host .functionSet), ("importer", .host .importerClass)]

/-- A new engine with these options. -/
def withSealed : Engine Unit Unit :=
  { withFunctions with
    bag := sealedBag
    options := { withFunctions.options with importer := .host .importerClass } }

/-- A render with a function set, an importer class and a compiler. -/
def sealedOn (functions : FunctionSet Nat) (importer : LegacyImporter Unit) (isTrue : Unit → Bool) :
    Occasion Unit Nat Unit where
  host := ⟨functions, importer, isTrue, fun _ _ => .done (.ok acceptedResult)⟩
  surroundings := .start "/work/project" [] ⟨none, []⟩
  bag := sealedBag

/-- The class of importers that cannot be made. -/
def sealedImporter : LegacyImporter Unit :=
  { idleImporter with make := fun _ => .error .abstractCall }

end Engine

end SassBridge
