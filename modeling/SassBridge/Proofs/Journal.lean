import SassBridge.Journal

/-! Parts of a journal: the requests, what the registry of compilers reported, and the work of the renders. Most of what
is noted is quiet about the first two. -/

namespace SassBridge

/-- Whether the registry of compilers reports an event. -/
def Event.isOfRegistry : Event → Bool
  | compilerDiscovered _ | entryPointIgnored _ => true
  | _ => false

namespace Journal

/-- What the registry of compilers reported. -/
def registryEvents (journal : Journal) : List Event :=
  journal.events.filter Event.isOfRegistry

/-- What is left of a journal without the reports of the registry. -/
def work (journal : Journal) : Journal :=
  journal.filter fun
    | .reported event => !event.isOfRegistry
    | _ => true

/-- Whether entries tell neither of a request nor of the registry. -/
structure IsQuiet (entries : Journal) : Prop where
  requests : entries.requests = []
  registryEvents : entries.registryEvents = []

variable {entries others : Journal}

theorem requests_append (journal entries : Journal) :
    requests (journal ++ entries) = journal.requests ++ entries.requests :=
  List.filterMap_append ..

theorem registryEvents_append (journal entries : Journal) :
    registryEvents (journal ++ entries) = journal.registryEvents ++ entries.registryEvents := by
  rw [registryEvents, events, List.filterMap_append, List.filter_append]
  rfl

theorem work_append (journal entries : Journal) : work (journal ++ entries) = journal.work ++ entries.work :=
  List.filter_append ..

theorem requests_reported (events : List Event) : requests (events.map .reported) = [] := by
  rw [requests, List.filterMap_eq_nil_iff]
  intro entry hentry
  obtain ⟨event, -, rfl⟩ := List.mem_map.mp hentry
  rfl

theorem registryEvents_reported (events : List Event) :
    registryEvents (events.map .reported) = events.filter Event.isOfRegistry := by
  rw [registryEvents, Journal.events, List.filterMap_map]
  exact congrArg _ List.filterMap_some

/-- What the registry reports is no work. -/
theorem work_reported {events : List Event} (hevents : ∀ event ∈ events, event.isOfRegistry = true) :
    work (events.map .reported) = [] := by
  rw [work, List.filter_eq_nil_iff]
  intro entry hentry
  obtain ⟨event, hevent, rfl⟩ := List.mem_map.mp hentry
  simp [hevents event hevent]

theorem requests_asked (requests : List ImportRequest) : Journal.requests (requests.map .asked) = [] := by
  rw [Journal.requests, List.filterMap_eq_nil_iff]
  intro entry hentry
  obtain ⟨request, -, rfl⟩ := List.mem_map.mp hentry
  rfl

theorem events_asked (requests : List ImportRequest) : events (requests.map .asked) = [] := by
  rw [events, List.filterMap_eq_nil_iff]
  intro entry hentry
  obtain ⟨request, -, rfl⟩ := List.mem_map.mp hentry
  rfl

namespace IsQuiet

theorem nil : IsQuiet [] :=
  ⟨rfl, rfl⟩

theorem append (hentries : entries.IsQuiet) (hothers : others.IsQuiet) : IsQuiet (entries ++ others) where
  requests := by rw [requests_append, hentries.requests, hothers.requests, List.append_nil]
  registryEvents := by rw [registryEvents_append, hentries.registryEvents, hothers.registryEvents, List.append_nil]

theorem reported {events : List Event} (hevents : ∀ event ∈ events, event.isOfRegistry = false) :
    IsQuiet (events.map .reported) where
  requests := requests_reported events
  registryEvents := by
    rw [registryEvents_reported, List.filter_eq_nil_iff]
    intro event hevent
    rw [hevents event hevent]
    exact Bool.false_ne_true

theorem asked (requests : List ImportRequest) : IsQuiet (requests.map .asked) where
  requests := requests_asked requests
  registryEvents := by rw [Journal.registryEvents, events_asked, List.filter_nil]

end IsQuiet

end Journal

end SassBridge
