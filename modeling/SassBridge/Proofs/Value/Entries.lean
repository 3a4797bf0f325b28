import SassBridge.Proofs.Value.Equality
import SassBridge.Value.Entries

/-! Maps that are built from pairs. -/

namespace SassBridge.Value

variable {pairs : List (Value × Value)}

theorem entriesOf_eq (pairs : List (Value × Value)) : entriesOf pairs = Assoc.insertAll equal [] pairs := rfl

theorem apart_entriesOf (pairs : List (Value × Value)) : Assoc.Apart equal (entriesOf pairs) :=
  Assoc.apart_insertAll List.Pairwise.nil pairs

theorem entriesOf_of_apart (hapart : Assoc.Apart equal pairs) : entriesOf pairs = pairs := by
  rw [entriesOf_eq, Assoc.insertAll_of_apart (by simpa using hapart), List.nil_append]

/-- A map with as many entries as it had pairs has them as they were. -/
theorem entriesOf_of_length (hlength : (entriesOf pairs).length = pairs.length) : entriesOf pairs = pairs := by
  rw [entriesOf_eq] at hlength ⊢
  rw [Assoc.insertAll_of_length (by simpa using hlength), List.nil_append]

theorem forall_mem_entriesOf {P Q : Value → Prop} (hpairs : ∀ pair ∈ pairs, P pair.1 ∧ Q pair.2) :
    ∀ entry ∈ entriesOf pairs, P entry.1 ∧ Q entry.2 := by
  rw [entriesOf_eq]
  exact Assoc.forall_mem_insertAll (by simp) hpairs

end SassBridge.Value
