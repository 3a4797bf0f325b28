import SassBridge.Compiler.Request

/-!
Compilations. A compiler that works on a request now and then asks its host something, goes on with the reply
and ends with a result or a failure. It sees nothing of the host but the replies.
-/

namespace SassBridge

inductive Query where
  /-- Calls a function by its signature. -/
  | call (signature : String) (arguments : List Value)
  /-- Asks the legacy importer for the canonical URL of an import. -/
  | canonicalize (url : Option String)
  /-- Asks the legacy importer for the stylesheet of a canonical URL. -/
  | load (url : Option String)
  /-- Asks which file a URL names. -/
  | find (url : Option String)
  deriving Repr

inductive Reply where
  | value (value : Value)
  | url (url : Option String)
  | sheet (sheet : Option Stylesheet)
  /-- There is no importer to ask. -/
  | nobody
  deriving Repr

inductive Compilation where
  | done (outcome : Except Failure CompileResult)
  | ask (query : Query) (next : Except Failure Reply → Compilation)

end SassBridge
