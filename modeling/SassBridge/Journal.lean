import SassBridge.Compiler.Compilation

/-!
The journal of a process: what was reported, which requests reached a compiler, what importers were asked and
how compilers were answered, oldest first.
-/

namespace SassBridge

inductive JournalEntry where
  | reported (event : Event)
  | compiled (request : Request)
  | asked (request : ImportRequest)
  | answered (query : Query) (reply : Except Failure Reply)

abbrev Journal := List JournalEntry

namespace Journal

def events (journal : Journal) : List Event :=
  journal.filterMap fun
    | .reported event => some event
    | _ => none

/-- The requests that reached a compiler. -/
def requests (journal : Journal) : List Request :=
  journal.filterMap fun
    | .compiled request => some request
    | _ => none

/-- What importers were asked. -/
def importRequests (journal : Journal) : List ImportRequest :=
  journal.filterMap fun
    | .asked request => some request
    | _ => none

/-- The replies that compilers got. -/
def replies (journal : Journal) : List (Except Failure Reply) :=
  journal.filterMap fun
    | .answered _ reply => some reply
    | _ => none

end Journal

end SassBridge
