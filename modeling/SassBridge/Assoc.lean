/-!
Association lists in the order of first insertion. A later equal key replaces the value and keeps the place
and the spelling of the first one. Equality of keys is a parameter.
-/

namespace SassBridge.Assoc

variable {κ α : Type}

/-- The value bound to a key. -/
def find? (same : κ → κ → Bool) (key : κ) : List (κ × α) → Option α
  | [] => none
  | (k, v) :: rest => if same k key then some v else find? same key rest

/-- Binds a key, in place if it is bound already. -/
def insert (same : κ → κ → Bool) (key : κ) (value : α) : List (κ × α) → List (κ × α)
  | [] => [(key, value)]
  | (k, v) :: rest => if same k key then (k, value) :: rest else (k, v) :: insert same key value rest

theorem find?_insert_self {same : κ → κ → Bool} {key : κ} (hself : same key key = true) (value : α)
    (entries : List (κ × α)) :
    find? same key (insert same key value entries) = some value := by
  induction entries with
  | nil => rw [insert, find?, if_pos hself]
  | cons entry entries ih =>
      rw [insert]
      split
      · next hsame => rw [find?, if_pos hsame]
      · next hsame => rw [find?, if_neg hsame, ih]

/-- Binds the pairs one after another. -/
def insertAll (same : κ → κ → Bool) (entries pairs : List (κ × α)) : List (κ × α) :=
  pairs.foldl (fun entries (key, value) => insert same key value entries) entries

end SassBridge.Assoc
