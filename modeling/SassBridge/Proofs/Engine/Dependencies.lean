import SassBridge.Proofs.Engine.Location
import SassBridge.Proofs.Engine.Snapshot

/-!
The files that a render read. The template is left out by its URL, which is written once, from the working directory of
that time; since a file has one URL however its path is spelled, what is left out is just the file of the template.
-/

namespace SassBridge

variable {κ σ ι : Type}

/-- What a compiler reports as loaded: a file, by a path and the directory that it is read from, or something else. -/
inductive Loaded where
  | file (directory path : String) (hdirectory : Path.IsAbsolute directory)
  | other (url : String) (hurl : Url.isFile url = false)

namespace Loaded

def url : Loaded → String
  | file directory path _ => Url.ofPath .posix directory path
  | other url _ => url

/-- The absolute path of a file. -/
def file? : Loaded → Option String
  | file directory path _ => some (Path.absolute directory path)
  | other _ _ => none

/-- All that is asked of what is loaded is that a `file:` URL was written from a path. -/
theorem exists_loaded_iff {urls : List String} :
    (∃ loads : List Loaded, urls = loads.map url) ↔
      ∀ url ∈ urls, Url.isFile url = true →
        ∃ directory path, Path.IsAbsolute directory ∧ url = Url.ofPath .posix directory path := by
  constructor
  · rintro ⟨loads, rfl⟩ url hmem hfile
    obtain ⟨load, -, rfl⟩ := List.mem_map.mp hmem
    cases load with
    | file directory path hdirectory => exact ⟨directory, path, hdirectory, rfl⟩
    | other url hurl => exact absurd hfile (Bool.eq_false_iff.mp hurl)
  · intro hurls
    induction urls with
    | nil => exact ⟨[], rfl⟩
    | cons url urls ih =>
        rw [List.forall_mem_cons] at hurls
        obtain ⟨loads, rfl⟩ := ih hurls.2
        cases hfile : Url.isFile url with
        | false => exact ⟨.other url hfile :: loads, rfl⟩
        | true =>
            obtain ⟨directory, path, hdirectory, rfl⟩ := hurls.1 hfile
            exact ⟨.file directory path hdirectory :: loads, rfl⟩

end Loaded

/-- All files but the template itself are named, each as often as it was reported and in that order. -/
theorem dependenciesOf_loaded {home : String} (hhome : Path.IsAbsolute home) (filename : String)
    (loads : List Loaded) :
    dependenciesOf (Url.ofPath .posix home filename) (loads.map Loaded.url) =
      .ok ((loads.filterMap Loaded.file?).filter (· ≠ Path.absolute home filename)) := by
  induction loads with
  | nil => rfl
  | cons load loads ih =>
      rw [dependenciesOf] at ih ⊢
      cases load with
      | file directory path hdirectory =>
          have hsame := Url.ofPath_eq_iff hdirectory hhome path filename
          rw [List.map_cons, Loaded.url, List.filter_cons, Url.isFile_ofPath, List.filterMap_cons, Loaded.file?,
            List.filter_cons]
          by_cases htemplate : Path.absolute directory path = Path.absolute home filename
          · rw [if_neg (by simp [hsame, htemplate]), if_neg (by simp [htemplate])]
            exact ih
          · have hread : (Url.toPath .posix (Url.ofPath .posix directory path)).mapError Failure.badHost =
                .ok (Path.absolute directory path) := by
              rw [Url.toPath_ofPath hdirectory]
              rfl
            rw [if_pos (by simp [hsame, htemplate]), if_pos (by simp [htemplate]), List.mapM_cons, hread, ih]
            rfl
      | other url hurl =>
          rw [List.map_cons, Loaded.url, List.filter_cons, hurl]
          exact ih

/-- The URL of a template in a render. -/
theorem Host.url_of_rendering {host : Host κ σ ι} {world : World κ ι} {rendering : Rendering}
    (hrendering : host.rendering? world = some rendering) : rendering.url = world.templateUrl := by
  obtain ⟨-, compiled, -, hcompiled, -⟩ := exists_compiled_of_rendering hrendering
  obtain ⟨prepared, ready, hprepare, hrest⟩ := Step.exists_of_run_bind_ok hcompiled
  obtain ⟨result, ended, -, hreturn⟩ := Step.exists_of_run_bind_ok hrest
  have hpair : (prepared.url, result) = (rendering.url, rendering.result) :=
    Except.ok.inj (congrArg Prod.fst hreturn)
  rw [← (Prod.mk.inj hpair).1, (prepares_of_prepare hprepare).url]

namespace Engine

/-- What is done with an engine: it renders, or it is asked for the URL of its template. -/
inductive Use (κ σ ι : Type) where
  | render (occasion : Occasion κ σ ι)
  | url (surroundings : Surroundings κ)

/-- The working directory of a use. -/
def Use.cwd : Use κ σ ι → String
  | render occasion => occasion.surroundings.cwd
  | url surroundings => surroundings.cwd

def afterUse (engine : Engine κ ι) : Use κ σ ι → Engine κ ι
  | .render occasion => (engine.renderOn occasion).2
  | .url surroundings => (World.fileUrl.run ⟨surroundings, engine⟩).2.engine

def afterUses : Engine κ ι → List (Use κ σ ι) → Engine κ ι
  | engine, [] => engine
  | engine, use :: uses => afterUses (engine.afterUse use) uses

/-- The directory from which a use would name the file of the template, if it comes to that. -/
def namedFrom? (engine : Engine κ ι) : Use κ σ ι → Option String
  | .render occasion =>
    if engine.template.isTrue ∧ (Surroundings.loadPaths.run occasion.surroundings).1.isOk then
      some occasion.surroundings.cwd
    else none
  | .url surroundings => some surroundings.cwd

/-- The directory from which the file of the template is named in a render after some uses: that of the first use that
names it. -/
def home (engine : Engine κ ι) (uses : List (Use κ σ ι)) (occasion : Occasion κ σ ι) : String :=
  (uses.findSome? engine.namedFrom?).getD occasion.surroundings.cwd

section Uses

variable (engine : Engine κ ι)

theorem sameOptions_afterUse (use : Use κ σ ι) : (engine.afterUse use).SameOptions engine := by
  cases use with
  | render occasion => exact sameOptions_renderOn engine occasion
  | url surroundings =>
      rw [afterUse, World.fileUrl_run]
      exact ⟨rfl, rfl⟩

theorem sameOptions_afterUses (uses : List (Use κ σ ι)) : (engine.afterUses uses).SameOptions engine := by
  induction uses generalizing engine with
  | nil => exact .refl engine
  | cons use uses ih => exact (ih (engine.afterUse use)).trans (sameOptions_afterUse engine use)

variable {engine} in
theorem SameOptions.namedFrom?_eq {other : Engine κ ι} (hsame : engine.SameOptions other) :
    (engine.namedFrom? : Use κ σ ι → Option String) = other.namedFrom? := by
  funext use
  cases use with
  | render occasion => rw [namedFrom?, namedFrom?, hsame.template]
  | url surroundings => rfl

/-- A use names the file unless that was done before. -/
theorem fileUrl?_afterUse (use : Use κ σ ι) :
    (engine.afterUse use).fileUrl? =
      engine.fileUrl?.or ((engine.namedFrom? use).map fun cwd => Url.ofPath .posix cwd engine.filename) := by
  cases use with
  | render occasion =>
      rw [afterUse, fileUrl?_renderOn, urlGiven?, namedFrom?]
      split <;> rfl
  | url surroundings =>
      rw [afterUse, World.fileUrl_run]
      change some (engine.fileUrl?.getD (Url.ofPath .posix surroundings.cwd engine.filename)) = _
      cases engine.fileUrl? <;> rfl

theorem fileUrl?_afterUses (uses : List (Use κ σ ι)) :
    (engine.afterUses uses).fileUrl? =
      engine.fileUrl?.or ((uses.findSome? engine.namedFrom?).map fun cwd => Url.ofPath .posix cwd engine.filename) := by
  induction uses generalizing engine with
  | nil => exact Option.or_none.symm
  | cons use uses ih =>
      have hsame := sameOptions_afterUse engine use
      rw [afterUses, ih, fileUrl?_afterUse, hsame.namedFrom?_eq, hsame.filename_eq, Option.or_assoc,
        List.findSome?_cons]
      cases engine.namedFrom? use <;> rfl

theorem home_of_same_cwd {uses : List (Use κ σ ι)} {occasion : Occasion κ σ ι}
    (hcwd : ∀ use ∈ uses, use.cwd = occasion.surroundings.cwd) :
    engine.home uses occasion = occasion.surroundings.cwd := by
  rw [home]
  cases hnamed : uses.findSome? engine.namedFrom? with
  | none => rfl
  | some cwd =>
      obtain ⟨use, huse, hfound⟩ := List.exists_of_findSome?_eq_some hnamed
      rw [Option.getD_some, ← hcwd use huse]
      cases use with
      | render earlier =>
          rw [namedFrom?] at hfound
          split at hfound
          · exact (Option.some.inj hfound).symm
          · cases hfound
      | url surroundings => exact (Option.some.inj hfound).symm

end Uses

variable {engine : Engine κ ι} {uses : List (Use κ σ ι)} {occasion : Occasion κ σ ι} {rendering : Rendering}

theorem templateUrl_afterUses (hurl : engine.fileUrl? = none) :
    ((engine.afterUses uses).worldOn occasion).templateUrl =
      Url.ofPath .posix (engine.home uses occasion) engine.filename := by
  change (engine.afterUses uses).fileUrl?.getD
    (Url.ofPath .posix occasion.surroundings.cwd (engine.afterUses uses).filename) = _
  rw [fileUrl?_afterUses, hurl, Option.none_or, (sameOptions_afterUses engine uses).filename_eq, home]
  cases uses.findSome? engine.namedFrom? <;> rfl

/-- After a render that returned, its own dependencies are shown. -/
theorem dependencies_renderOn {css : Option String}
    (hrendering : occasion.host.rendering? (engine.worldOn occasion) = some rendering)
    (hreturned : (engine.renderOn occasion).1 = .ok css) :
    (engine.renderOn occasion).2.dependencies = rendering.dependencies := by
  have hto := occasion.host.rendersTo_render (engine.worldOn occasion)
  have houtcome : (occasion.host.render.run (engine.worldOn occasion)).1 = .ok css := hreturned
  generalize (occasion.host.render.run (engine.worldOn occasion)).1 = outcome at hto houtcome
  generalize hstanding : (occasion.host.render.run (engine.worldOn occasion)).2.standing = standing at hto
  have hrendered : (engine.renderOn occasion).2.rendered = standing.rendered := congrArg Standing.rendered hstanding
  have hkept : (engine.renderOn occasion).2.dependencies? = standing.dependencies? :=
    congrArg Standing.dependencies? hstanding
  cases hto with
  | uncompiled hnone =>
      rw [hnone] at hrendering
      cases hrendering
  | unreadable => cases houtcome
  | refused => cases houtcome
  | kept hsome hread hmap =>
      obtain rfl := Option.some.inj (hsome.symm.trans hrendering)
      rw [Engine.dependencies, hrendered, hkept, hread]

/-- After a render that returned, the dependencies are the files that the compiler reported, but for the one file that
it was given as the template. This file is named from the working directory in which the engine was first used, be it
the one of the render or not. -/
theorem dependencies_eq_files {template : Datum} {options more : Bag} {compiler? : Option κ} {importer : Held ι}
    {engine : Engine κ ι} (hnew : ofOptions template options more compiler? importer = .ok engine)
    (uses : List (Use κ σ ι)) (occasion : Occasion κ σ ι) {rendering : Rendering} {css : Option String}
    (hrendering : occasion.host.rendering? ((engine.afterUses uses).worldOn occasion) = some rendering)
    (hreturned : ((engine.afterUses uses).renderOn occasion).1 = .ok css)
    (hurls : ∀ url ∈ rendering.result.loadedUrls, Url.isFile url = true →
      ∃ directory path, Path.IsAbsolute directory ∧ url = Url.ofPath .posix directory path)
    (hhome : Path.IsAbsolute (engine.home uses occasion)) :
    let root := Path.absolute (engine.home uses occasion) engine.filename
    (∃ loads : List Loaded, rendering.result.loadedUrls = loads.map Loaded.url) ∧
      (∀ loads : List Loaded, rendering.result.loadedUrls = loads.map Loaded.url →
        ((engine.afterUses uses).renderOn occasion).2.dependencies =
          .ok ((loads.filterMap Loaded.file?).filter (· ≠ root))) ∧
      rendering.url = Url.ofPath .posix (engine.home uses occasion) engine.filename ∧
      ((∀ use ∈ uses, use.cwd = occasion.surroundings.cwd) →
        root = Path.absolute occasion.surroundings.cwd engine.filename) := by
  intro root
  obtain ⟨read, -, rfl⟩ := eq_of_ofOptions hnew
  have hurl := (Host.url_of_rendering hrendering).trans (templateUrl_afterUses rfl)
  refine ⟨Loaded.exists_loaded_iff.mpr hurls, fun loads hloads => ?_, hurl, fun hcwd => ?_⟩
  · rw [dependencies_renderOn hrendering hreturned, Rendering.dependencies, hloads, hurl]
    exact dependenciesOf_loaded hhome _ loads
  · change Path.absolute (home _ uses occasion) _ = _
    rw [home_of_same_cwd _ hcwd]

/-- A new engine whose template has a file. -/
def named : Engine Unit Unit :=
  { plain with
    bag := [("filename", .text "project/styles/../main.scss")]
    options := { plain.options with filename := some "project/styles/../main.scss" } }

/-- A sheet that was loaded twice, the template by a path of its own, a sheet next to the project, and what is no
file. -/
def loadedByNamed : List Loaded :=
  [.file "/work/project" "_a.scss" (by decide), .other "sass:math" (by decide),
    .file "/" "work/project/./main.scss" (by decide), .other "sass-importer-shim:file:///work/kit" (by decide),
    .file "/work/project" "../kit/b c.scss" (by decide), .file "/work" "project//_a.scss" (by decide)]

/-- The engine is asked for the URL of its template in one directory, and renders in another. -/
theorem dependencies_eq_files_named :
    let uses : List (Use Unit Unit Unit) := [.url (.start "/work" [] ⟨none, []⟩)]
    let occasion := compilingTo (.ok ⟨"a", none, loadedByNamed.map Loaded.url⟩)
    ofOptions (.text "a { b: c }") [("filename", .text "project/styles/../main.scss")] [] (some ()) ⟨(), .shared⟩ =
        .ok named ∧
      ((named.afterUses uses).renderOn occasion).2.dependencies =
        .ok ["/work/project/_a.scss", "/work/kit/b c.scss", "/work/project/_a.scss"] := by
  intro uses occasion
  have hnew : ofOptions (.text "a { b: c }") [("filename", .text "project/styles/../main.scss")] [] (some ())
      ⟨(), .shared⟩ = .ok named := rfl
  have hrendering : occasion.host.rendering? ((named.afterUses uses).worldOn occasion) =
      some ⟨"/work/project", "file:///work/project/main.scss", ⟨"a", none, loadedByNamed.map Loaded.url⟩⟩ := by
    decide +kernel
  have hhome : named.home uses occasion = "/work" := rfl
  have hreturned : ((named.afterUses uses).renderOn occasion).1.isOk := by decide +kernel
  obtain ⟨css, hcss⟩ : ∃ css, ((named.afterUses uses).renderOn occasion).1 = .ok css := by
    cases houtcome : ((named.afterUses uses).renderOn occasion).1 with
    | ok css => exact ⟨css, rfl⟩
    | error failure => rw [houtcome] at hreturned; cases hreturned
  obtain ⟨-, hfiles, -, -⟩ := dependencies_eq_files hnew uses occasion hrendering hcss
    (Loaded.exists_loaded_iff.mp ⟨loadedByNamed, rfl⟩) (by rw [hhome]; decide)
  refine ⟨hnew, (hfiles loadedByNamed rfl).trans (congrArg Except.ok ?_)⟩
  rw [hhome]
  decide +kernel

end Engine

end SassBridge
