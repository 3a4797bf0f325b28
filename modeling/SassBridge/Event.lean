import SassBridge.Failure
import SassBridge.Log.Record

/-! What the bridge reports while it works. -/

namespace SassBridge

inductive Event where
  | functionsRegistered (signatures : List String)
  | functionFailed (function : String) (failure : Failure)
  | importDeclined (path : String)
  | importResolved (path canonicalUrl : String) (imports : Nat)
  | compilerDiscovered (entryPoint : String)
  | entryPointIgnored (entryPoint : String)
  | renderStarted (url language style : String)
  | renderFailed (url : String) (filename : Option String) (line : Option Int)
  | renderCompleted (url : String) (dependencies : Nat) (sourceMap : Bool)
  deriving Repr

namespace Event

def textOrNull (text : Option String) : Datum :=
  (text.map Datum.text).getD .null

def count (n : Nat) : Datum :=
  .number (.int n)

def toRecord (wording : Wording) : Event → Log.Record
  | functionsRegistered signatures =>
    ⟨.debug, .text "custom_functions_registered", [("signatures", .list (signatures.map Datum.text))], false⟩
  | functionFailed function failure =>
    ⟨.warning, .text "custom_function_failed",
      [("function", .text function), ("error", .text (failure.text wording)),
        ("error_type", .text failure.kind.name)], false⟩
  | importDeclined path => ⟨.debug, .text "legacy_importer_declined", [("path", .text path)], false⟩
  | importResolved path canonicalUrl imports =>
    ⟨.debug, .text "legacy_importer_resolved",
      [("path", .text path), ("canonical_url", .text canonicalUrl), ("imports", count imports)], false⟩
  | compilerDiscovered entryPoint =>
    ⟨.debug, .text "compiler_discovered", [("entry_point", .text entryPoint)], false⟩
  | entryPointIgnored entryPoint =>
    ⟨.warning, .text "compiler_entry_point_ignored",
      [("entry_point", .text entryPoint), ("reason", .text "object does not implement compile_string")], false⟩
  | renderStarted url language style =>
    ⟨.debug, .text "render_started",
      [("url", .text url), ("syntax", .text language), ("style", .text style)], false⟩
  | renderFailed url filename line =>
    ⟨.debug, .text "render_failed", [("url", .text url), ("filename", textOrNull filename),
      ("line", (line.map fun line => Datum.number (.int line)).getD .null)], false⟩
  | renderCompleted url dependencies sourceMap =>
    ⟨.debug, .text "render_completed", [("url", .text url), ("dependencies", count dependencies),
      ("source_map", .bool sourceMap)], false⟩

end Event

end SassBridge
