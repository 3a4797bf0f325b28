import SassBridge.Proofs.Journal
import SassBridge.Proofs.Lists
import SassBridge.Session

/-! What a compiler cannot bring about by its queries. A session notes neither a request nor a report of the registry,
whatever the compiler asks. If functions and importers leave their options alone, the bag stays as it was. -/

namespace SassBridge

variable {σ ι : Type}

theorem FunctionSet.isOfRegistry_callback (set : FunctionSet σ) (name : String) (arguments : List Value)
    (receiver : Receiver σ) : ∀ event ∈ (set.callback name arguments receiver).events, event.isOfRegistry = false := by
  rw [callback]
  split
  · exact fun _ => nofun
  · split
    · exact fun _ => nofun
    · split
      · exact List.forall_mem_singleton.mpr rfl
      · exact fun _ => nofun

namespace LegacyImporter

variable {cwd requested fileUrl path url : String} {cache : Cache}

theorem isOfRegistry_synthesize {entries : List (Option ImportEntry)} {receiver : Receiver ι}
    {request : ImportRequest} :
    ∀ event ∈ (synthesize cwd requested fileUrl entries cache receiver request).event, event.isOfRegistry = false := by
  rw [synthesize]
  split
  · exact nofun
  · rintro _ ⟨⟩
    rfl

theorem isOfRegistry_ask (importer : LegacyImporter ι) {receiver : Receiver ι} :
    ∀ event ∈ (importer.ask cwd path fileUrl cache receiver).event, event.isOfRegistry = false := by
  rw [ask]
  split
  · exact nofun
  · dsimp only
    split
    · exact nofun
    · exact nofun
    · exact isOfRegistry_synthesize
    · split
      · rintro _ ⟨⟩
        rfl
      · exact isOfRegistry_synthesize

theorem isOfRegistry_canonicalize (importer : LegacyImporter ι) {receiver : Receiver ι} :
    ∀ event ∈ (importer.canonicalize cwd url cache receiver).event, event.isOfRegistry = false := by
  rw [canonicalize]
  split
  · exact nofun
  · dsimp only
    split
    · exact nofun
    · exact nofun
    · split
      · exact nofun
      · exact importer.isOfRegistry_ask

end LegacyImporter

namespace Session

variable {session : Session σ ι}

theorem journal_start {cwd : String} {bag : Bag} {functions : FunctionSession σ} {importer : LegacyImporter ι}
    {existing : Held ι} (hsession : start cwd bag functions importer existing = .ok session) :
    session.journal = [] := by
  obtain ⟨importer?, -, himporter⟩ := Lists.bind_ok_iff.mp hsession
  rw [← Except.ok.inj himporter]

theorem isQuiet_call (hsession : session.journal.IsQuiet) (signature : String) (arguments : List Value) :
    (session.call signature arguments).2.journal.IsQuiet := by
  rw [call]
  cases session.functions.table.find? signature with
  | none => exact hsession
  | some name => exact hsession.append (.reported (session.functions.set.isOfRegistry_callback name arguments _))

theorem isQuiet_canonicalize (hsession : session.journal.IsQuiet) (url : Option String) :
    (session.canonicalize url).2.journal.IsQuiet := by
  rw [canonicalize.eq_def]
  split
  · exact hsession
  · exact hsession
  · refine hsession.append (.append (.asked _) (.reported fun event hevent => ?_))
    exact LegacyImporter.isOfRegistry_canonicalize _ event (Option.mem_toList.mp hevent)

theorem isQuiet_answer (hsession : session.journal.IsQuiet) (query : Query) :
    (session.answer query).2.journal.IsQuiet := by
  cases query with
  | call signature arguments => exact isQuiet_call hsession signature arguments
  | canonicalize url => exact isQuiet_canonicalize hsession url
  | load url => exact hsession
  | find url => exact hsession

/-- Whatever a compiler asks, it is asked to compile nothing else. -/
theorem isQuiet_drive (hsession : session.journal.IsQuiet) (compilation : Compilation) :
    (session.drive compilation).2.journal.IsQuiet := by
  induction compilation generalizing session with
  | done outcome => exact hsession
  | ask query next ih => exact ih _ (.append (isQuiet_answer hsession query) ⟨rfl, rfl⟩)

end Session

/-! Functions and importers that leave their options alone. -/

/-- What a member does when it is called, if it does anything. -/
def Member.body? : Member σ → Option (Body σ)
  | method _ body | static _ body | classMethod _ body | property body => some body
  | constant => none

/-- Whether nothing that can be called on an instance changes its options: neither what the set defines nor what the
instance holds. Definitions that are hidden by others do not count. -/
structure FunctionSet.KeepsOptions (set : FunctionSet σ) : Prop where
  defined : ∀ name definition, set.nearest? name = some definition → ∀ body, definition.body? = some body →
    ∀ bound receiver, (body bound receiver).2.options = receiver.options
  own : ∀ name holder held, set.own? name holder = some held →
    ∀ arguments receiver, (held arguments receiver).2.options = receiver.options

/-- Whether an importer does not change the options of an instance. -/
def LegacyImporter.KeepsOptions (importer : LegacyImporter ι) : Prop :=
  ∀ request receiver, (importer.imports request receiver).2.options = receiver.options

theorem Member.options_call {definition : Member σ} (hkeeps : ∀ body, definition.body? = some body →
      ∀ bound receiver, (body bound receiver).2.options = receiver.options)
    (object : Value) (name : String) (arguments : List Value) (receiver : Receiver σ) :
    (definition.call object name arguments receiver).2.options = receiver.options := by
  cases definition with
  | method parameters body | static parameters body | classMethod parameters body =>
      rw [call.eq_def]
      dsimp only
      split
      · exact hkeeps body rfl _ receiver
      · rfl
  | property body =>
      have hbody := hkeeps body rfl [] receiver
      rcases hrun : body [] receiver with ⟨outcome | outcome, after⟩
      · rw [hrun] at hbody
        simp only [call, hrun]
        exact hbody
      · rw [hrun] at hbody
        simp only [call, hrun]
        exact hbody
  | constant => rfl

namespace FunctionSet

variable {set : FunctionSet σ}

theorem options_attribute? (hkeeps : set.KeepsOptions) {name : String} {holder : Receiver σ} {held : Attribute σ}
    (hheld : set.attribute? name holder = some held) (arguments : List Value) (receiver : Receiver σ) :
    (held arguments receiver).2.options = receiver.options := by
  rw [attribute?, Option.or_eq_some_iff] at hheld
  rcases hheld with hown | ⟨-, hoptions⟩
  · exact hkeeps.own name holder held hown arguments receiver
  · split at hoptions
    · rw [← Option.some.inj hoptions]
      rfl
    · cases hoptions

theorem options_invoke (hkeeps : set.KeepsOptions) (name : String) (arguments : List Value) (receiver : Receiver σ) :
    (set.invoke name arguments receiver).2.options = receiver.options := by
  rw [invoke]
  split
  · next held hheld => exact options_attribute? hkeeps hheld arguments receiver
  · cases hnearest : set.nearest? name with
    | some definition => exact Member.options_call (hkeeps.defined name definition hnearest) _ _ arguments receiver
    | none => rfl

theorem options_callback (hkeeps : set.KeepsOptions) (name : String) (arguments : List Value) (receiver : Receiver σ) :
    (set.callback name arguments receiver).receiver.options = receiver.options := by
  rw [callback]
  split
  · rfl
  · rename_i arguments _
    have hinvoked := options_invoke hkeeps name arguments receiver
    split
    · rename_i hrun
      rwa [hrun] at hinvoked
    · rename_i hrun
      rw [hrun] at hinvoked
      split
      · exact hinvoked
      · exact hinvoked

end FunctionSet

namespace LegacyImporter

variable {importer : LegacyImporter ι}

theorem options_synthesize {cwd requested fileUrl : String} {entries : List (Option ImportEntry)} {cache : Cache}
    {receiver : Receiver ι} {request : ImportRequest} :
    (synthesize cwd requested fileUrl entries cache receiver request).receiver.options = receiver.options := by
  rw [synthesize]
  split <;> rfl

theorem options_ask (hkeeps : importer.KeepsOptions) (cwd path fileUrl : String) (cache : Cache)
    (receiver : Receiver ι) : (importer.ask cwd path fileUrl cache receiver).receiver.options = receiver.options := by
  rw [ask]
  split
  · rfl
  · rename_i options hoptions
    have hasked := hkeeps ⟨path, (options.get? "filename").getD .null⟩ receiver
    dsimp only
    split
    all_goals
      rename_i hrun
      rw [hrun] at hasked
    · exact hasked
    · exact hasked
    · exact options_synthesize.trans hasked
    · split
      · exact hasked
      · exact options_synthesize.trans hasked

theorem options_canonicalize (hkeeps : importer.KeepsOptions) (cwd url : String) (cache : Cache)
    (receiver : Receiver ι) : (importer.canonicalize cwd url cache receiver).receiver.options = receiver.options := by
  rw [canonicalize]
  split
  · rfl
  · dsimp only
    split
    · rfl
    · rfl
    · split
      · rfl
      · exact options_ask hkeeps _ _ _ cache receiver

end LegacyImporter

/-- An object whose options were left alone is where it was, and so is the bag. -/
theorem Held.update_of_kept {held : Held σ} {bag : Bag} {receiver : Receiver σ}
    (hkept : receiver.options = (held.receiver bag).options) :
    held.update bag receiver = (⟨receiver.state, held.options⟩, bag) := by
  obtain ⟨state, options⟩ := held
  obtain ⟨kept, after⟩ := receiver
  cases options <;> cases hkept <;> rfl

/-- What functions and importers cannot change if they leave their options alone: the bag, the function set, and the
importer with the place of its options, and whether it is there after the render. -/
structure Frame (σ ι : Type) where
  bag : Bag
  functions : FunctionSet σ
  importer : Option (LegacyImporter ι × OptionsHolder × Bool)

def Frame.KeepsOptions (frame : Frame σ ι) : Prop :=
  frame.functions.KeepsOptions ∧ ∀ importer rest, frame.importer = some (importer, rest) → importer.KeepsOptions

namespace Session

def frame (session : Session σ ι) : Frame σ ι where
  bag := session.bag
  functions := session.functions.set
  importer := session.importer.map fun importer => (importer.importer, importer.held.options, importer.outlives)

variable {session : Session σ ι}

theorem frame_call (hkeeps : session.frame.KeepsOptions) (signature : String) (arguments : List Value) :
    (session.call signature arguments).2.frame = session.frame := by
  rw [call]
  cases session.functions.table.find? signature with
  | none => rfl
  | some name =>
      have hkept := FunctionSet.options_callback hkeeps.1 name arguments (session.functions.held.receiver session.bag)
      simp only [frame] at hkept
      simp only [Held.update_of_kept hkept]
      rfl

theorem frame_canonicalize (hkeeps : session.frame.KeepsOptions) (url : Option String) :
    (session.canonicalize url).2.frame = session.frame := by
  obtain ⟨cwd, bag, functions, importer, journal⟩ := session
  cases importer with
  | none => cases url <;> rfl
  | some importer =>
      cases url with
      | none => rfl
      | some url =>
          have hkept := LegacyImporter.options_canonicalize (hkeeps.2 _ _ rfl) cwd url importer.cache
            (importer.held.receiver bag)
          simp only [canonicalize, Held.update_of_kept hkept]
          rfl

theorem frame_answer (hkeeps : session.frame.KeepsOptions) (query : Query) :
    (session.answer query).2.frame = session.frame := by
  cases query with
  | call signature arguments => exact frame_call hkeeps signature arguments
  | canonicalize url => exact frame_canonicalize hkeeps url
  | load url => rfl
  | find url => rfl

/-- Whatever a compiler asks, the bag stays as it was. -/
theorem frame_drive (hkeeps : session.frame.KeepsOptions) (compilation : Compilation) :
    (session.drive compilation).2.frame = session.frame := by
  induction compilation generalizing session with
  | done outcome => rfl
  | ask query next ih =>
      have hanswer : ((session.answer query).2.note [.answered query (session.answer query).1]).frame = session.frame :=
        frame_answer hkeeps query
      have hnext := ih (session.answer query).1 (hanswer.symm ▸ hkeeps)
      rwa [hanswer] at hnext

end Session

end SassBridge
