/-! Cutting text at a character, and looking for one text inside another. -/

namespace SassBridge.Text

/-- The pieces between the occurrences of `separator`; there is always at least one. -/
def split (separator : Char) : List Char → List (List Char)
  | [] => [[]]
  | c :: rest =>
    if c = separator then [] :: split separator rest
    else
      match split separator rest with
      | [] => [[c]]
      | piece :: pieces => (c :: piece) :: pieces

theorem split_ne_nil (separator : Char) (text : List Char) : split separator text ≠ [] := by
  cases text with
  | nil => simp [split]
  | cons c rest =>
      simp only [split]
      split
      · simp
      · split <;> simp

theorem split_separator (separator : Char) (rest : List Char) :
    split separator (separator :: rest) = [] :: split separator rest := by
  simp [split]

/-- The text before the first `mark`, which is the whole text when there is none. -/
def before (mark : Char) (text : List Char) : List Char :=
  text.takeWhile (· ≠ mark)

/-- The text after the first `mark`, or nothing when there is none. -/
def after (mark : Char) (text : List Char) : List Char :=
  (text.dropWhile (· ≠ mark)).drop 1

/-- The text after the last `mark`, which is the whole text when there is none. -/
def afterLast (mark : Char) (text : List Char) : List Char :=
  (text.reverse.takeWhile (· ≠ mark)).reverse

/-- Whether `needle` occurs somewhere in the text. -/
def occurs {α : Type} [BEq α] (needle : List α) : List α → Bool
  | [] => needle.isEmpty
  | c :: rest => needle.isPrefixOf (c :: rest) || occurs needle rest

/-- What follows `start`, if the text begins with it. -/
def dropStart? (start : List Char) (text : List Char) : Option (List Char) :=
  List.isPrefixOf? start text

/-- Whether the text begins with `start`. -/
def startsWith (start : String) (text : String) : Bool :=
  start.toList.isPrefixOf text.toList

end SassBridge.Text
