/-!
Text of code points. JSON can write a surrogate by itself, which is no character. Such a text is cut, compared and put
together like any other, but it has no encoding.
-/

namespace SassBridge

inductive CodePoint where
  | char (c : Char)
  /-- One of the surrogates, counted from the first of them. -/
  | surrogate (place : Fin 0x800)
  deriving DecidableEq, Repr

/-- A text that may hold surrogates. -/
abbrev Wide := List CodePoint

namespace CodePoint

instance : Coe Char CodePoint := ⟨char⟩

def ofNat (n : Nat) : CodePoint :=
  if 0xD800 ≤ n ∧ n < 0xE000 then surrogate (.ofNat 0x800 (n - 0xD800)) else char (.ofNat n)

def char? : CodePoint → Option Char
  | char c => some c
  | surrogate _ => none

end CodePoint

namespace Wide

def ofChars (text : List Char) : Wide :=
  text.map CodePoint.char

def ofString (text : String) : Wide :=
  ofChars text.toList

instance : Coe String Wide := ⟨ofString⟩

/-- The characters of a text without surrogates. -/
def toChars? : Wide → Option (List Char)
  | [] => some []
  | .char c :: rest => (toChars? rest).map (c :: ·)
  | .surrogate _ :: _ => none

def toString? (text : Wide) : Option String :=
  text.toChars?.map String.ofList

/-- The characters before the first surrogate. -/
def leading : Wide → List Char
  | .char c :: rest => c :: leading rest
  | _ => []

/-- The rest from the first surrogate on. -/
def afterLeading : Wide → Wide
  | .char _ :: rest => afterLeading rest
  | text => text

/-- Puts each run of characters in another form, after characters that the first run starts with, which are in
reverse. -/
def mapRunsAfter (form : List Char → List Char) (run : List Char) : Wide → Wide
  | [] => ofChars (form run.reverse)
  | .char c :: rest => mapRunsAfter form (c :: run) rest
  | .surrogate place :: rest => ofChars (form run.reverse) ++ .surrogate place :: mapRunsAfter form [] rest

/-- Puts each run of characters between surrogates in another form. -/
def mapRuns (form : List Char → List Char) (text : Wide) : Wide :=
  mapRunsAfter form [] text

/-- A text as characters: a backslash starts the escape of a surrogate, and that of a backslash. -/
def escaped (text : Wide) : List Char :=
  text.flatMap fun
    | .char c => if c = '\\' then ['\\', '\\'] else [c]
    | .surrogate place => ['\\', Char.ofNat (0xE000 + place)]

/-- The text that is escaped as these characters. -/
def ofEscaped : List Char → Wide
  | '\\' :: '\\' :: rest => .char '\\' :: ofEscaped rest
  | '\\' :: c :: rest => .surrogate (.ofNat 0x800 (c.toNat - 0xE000)) :: ofEscaped rest
  | c :: rest => .char c :: ofEscaped rest
  | [] => []

end Wide

end SassBridge
