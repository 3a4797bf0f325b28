import SassBridge.Text.Hex
import SassBridge.Text.Quoted
import SassBridge.Text.Split

/-!
Hosts of URLs with brackets. Brackets hold an address of version 6, with an optional scope, or a tagged future
address; nothing else may stand in them. A user may come before them, and a port after them. With or without
brackets, no character may be another form of one that has a meaning in URLs.
-/

namespace SassBridge.Url

/-- What is wrong with the host of a URL. -/
inductive HostFault where
  /-- Brackets are unbalanced, or something stands right beside them. -/
  | brackets
  | futureAddress
  | addressFour
  | noAddress (host : String)
  /-- A character is another form of one that has a meaning in URLs. -/
  | otherForm (authority : String)
  deriving DecidableEq, Repr

namespace HostFault

def message : HostFault → String
  | brackets => "Invalid IPv6 URL"
  | futureAddress => "IPvFuture address is invalid"
  | addressFour => "An IPv4 address cannot be in brackets"
  | noAddress host => Quoted.display host ++ " does not appear to be an IPv4 or IPv6 address"
  | otherForm authority => "netloc '" ++ authority ++ "' contains invalid characters under NFKC normalization"

end HostFault

namespace Host

def isHex (c : Char) : Bool :=
  (Hex.digitValue? c).isSome

/-- A number up to 255 without leading zeros. -/
def isOctet (text : List Char) : Bool :=
  text ≠ [] && text.all Char.isDigit && text.length ≤ 3 && (text = ['0'] || text.head? ≠ some '0') &&
    text.foldl (fun n c => 10 * n + (c.toNat - 0x30)) 0 ≤ 255

def isAddressFour (text : List Char) : Bool :=
  let octets := Text.split '.' text
  octets.length = 4 && octets.all isOctet

/-- A group of one to four hexadecimal digits. -/
def isGroup (text : List Char) : Bool :=
  text ≠ [] && text.all isHex && text.length ≤ 4

/-- The groups of an address. A dotted ending stands for two of them. -/
def groups? (text : List Char) : Option (List (List Char)) :=
  let groups := Text.split ':' text
  match groups.getLast? with
  | some last =>
    if '.' ∈ last then
      if isAddressFour last then some (groups.dropLast ++ [['0'], ['0']]) else none
    else some groups
  | none => none

/-- The groups on one side of an omission, of which a colon at the very end of the address leaves an empty one. -/
def trimEnd (groups : List (List Char)) : List (List Char) :=
  if groups = [[]] then [] else groups

/-- Eight groups, or fewer around one omission. -/
def areGroups (groups : List (List Char)) : Bool :=
  let inner := (groups.drop 1).dropLast
  match inner.count [] with
  | 0 => groups.length = 8 && groups.all isGroup
  | 1 =>
    let place := 1 + (inner.takeWhile (· ≠ [])).length
    let front := trimEnd (groups.take place)
    let back := trimEnd (groups.drop (place + 1))
    front.length + back.length ≤ 7 && front.all isGroup && back.all isGroup
  | _ => false

/-- The part before a scope, if the scope is sound. -/
def withoutScope? (text : List Char) : Option (List Char) :=
  if '%' ∈ text then
    let scope := Text.after '%' text
    if scope = [] ∨ '%' ∈ scope then none else some (Text.before '%' text)
  else some text

def isAddressSix (text : List Char) : Bool :=
  ((withoutScope? text).bind groups?).any areGroups

/-- A `v`, hexadecimal digits, a point and something after it. -/
def isFutureAddress (text : List Char) : Bool :=
  match text with
  | 'v' :: rest =>
    rest.takeWhile isHex ≠ [] &&
      match rest.dropWhile isHex with
      | '.' :: _ :: _ => true
      | _ => false
  | _ => false

def checkAddress (host : List Char) : Except HostFault Unit :=
  if host.head? = some 'v' then
    if isFutureAddress host then .ok () else .error .futureAddress
  else if isAddressFour host then .error .addressFour
  else if isAddressSix host then .ok ()
  else .error (.noAddress (.ofList host))

/-- The host of an authority, without the user before it and the port after it. Its brackets are no part of it;
they start right after the user and end right before the port. -/
def ofAuthority (authority : List Char) : Except HostFault (List Char) :=
  let place := Text.afterLast '@' authority
  if '[' ∈ place then
    let bracketed := Text.after '[' place
    let port := Text.after ']' bracketed
    if Text.before '[' place ≠ [] ∨ port.head?.any (· ≠ ':') then .error .brackets
    else .ok (Text.before ']' bracketed)
  else .ok (Text.before ':' place)

/-- Brackets come in both kinds or not at all. Where there are any, also within the user, the host has to be an
address. -/
def checkBrackets (authority : List Char) : Except HostFault Unit :=
  match decide ('[' ∈ authority), decide (']' ∈ authority) with
  | false, false => .ok ()
  | true, true => do checkAddress (← ofAuthority authority)
  | _, _ => .error .brackets

/-- The characters that are the same as a slash, a question mark, a number sign, an at sign or a colon, or that hold
one of them, but for their form. -/
def otherForms : List Char :=
  ['\u2047', '\u2048', '\u2049', '\u2100', '\u2101', '\u2105', '\u2106', '\u2a74', '\ufe13', '\ufe16',
    '\ufe55', '\ufe56', '\ufe5f', '\ufe6b', '\uff03', '\uff0f', '\uff1a', '\uff1f', '\uff20']

def check (authority : List Char) : Except HostFault Unit := do
  checkBrackets authority
  if authority.any (· ∈ otherForms) then throw (.otherForm (.ofList authority))

end Host

end SassBridge.Url
