import SassBridge.Url.Host

/-!
The path of a URL. Controls and blanks at the start are skipped, tabs and line breaks anywhere are dropped,
and a scheme, an authority, a fragment and a query are cut off.
-/

namespace SassBridge.Url

/-- Characters that are skipped at the start. -/
def isLeadingBlank (c : Char) : Bool :=
  c.toNat ≤ 0x20

/-- Characters that are dropped wherever they stand. -/
def isDropped (c : Char) : Bool :=
  c = '\t' || c = '\n' || c = '\r'

def clean (url : List Char) : List Char :=
  (url.dropWhile isLeadingBlank).filter (!isDropped ·)

def isSchemeStart (c : Char) : Bool :=
  ('a' ≤ c && c ≤ 'z') || ('A' ≤ c && c ≤ 'Z')

def isSchemeChar (c : Char) : Bool :=
  isSchemeStart c || ('0' ≤ c && c ≤ '9') || c ∈ ['+', '-', '.']

/-- Cuts off a scheme with its colon. -/
def dropScheme (url : List Char) : List Char :=
  let scheme := Text.before ':' url
  if ':' ∈ url ∧ scheme.head?.any isSchemeStart ∧ scheme.all isSchemeChar then Text.after ':' url else url

/-- Characters that end an authority. -/
def endsAuthority (c : Char) : Bool :=
  c = '/' || c = '?' || c = '#'

/-- Cuts off an authority, whose host has to be sound. -/
def dropAuthority (url : List Char) : Except HostFault (List Char) :=
  match url with
  | '/' :: '/' :: rest => do
    Host.check (rest.takeWhile (!endsAuthority ·))
    return rest.dropWhile (!endsAuthority ·)
  | _ => .ok url

def pathChars (url : List Char) : Except HostFault (List Char) := do
  let rest ← dropAuthority (dropScheme (clean url))
  return Text.before '?' (Text.before '#' rest)

end SassBridge.Url
