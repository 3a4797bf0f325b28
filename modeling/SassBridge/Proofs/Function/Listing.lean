import SassBridge.Proofs.Function.Announced
import SassBridge.Proofs.Function.SignatureText

/-!
The custom functions of a set over all its layers, by name and by signature. A name is listed once, in order, if its
nearest definition is a function, and the table has one signature for each name. A session has that table as soon as
there is an instance of the set.
-/

namespace SassBridge

variable {σ : Type}

namespace FunctionSet

variable {set : FunctionSet σ} {name : String} {definition : Member σ}

theorem exists_mem_of_nearest? (hnearest : set.nearest? name = some definition) :
    ∃ layer ∈ set.layers, (name, definition) ∈ layer := by
  obtain ⟨layer, hlayer, hfound⟩ := List.exists_of_findSome?_eq_some hnearest
  exact ⟨layer, hlayer, Assoc.mem_of_find? hfound⟩

theorem lists_iff : set.lists name = true ↔
    isPublic name = true ∧ ∃ definition, set.nearest? name = some definition ∧ definition.isFunction = true := by
  rw [lists, Bool.and_eq_true, Option.any_eq_true]

theorem mem_names_iff : name ∈ set.names ↔ set.lists name = true := by
  refine ⟨lists_of_mem_names, fun hlists => ?_⟩
  obtain ⟨definition, hnearest, -⟩ := exists_function_of_lists hlists
  obtain ⟨layer, hlayer, hmem⟩ := exists_mem_of_nearest? hnearest
  rw [names, List.mem_mergeSort, List.mem_eraseDups, List.mem_filter]
  exact ⟨List.mem_flatMap.mpr ⟨layer, hlayer, List.mem_map_of_mem hmem⟩, hlists⟩

/-- No name is listed twice, whatever the layers say about it. -/
theorem pairwise_names (set : FunctionSet σ) : set.names.Pairwise (· < ·) := by
  have hsorted : set.names.Pairwise fun a b => decide (a ≤ b) = true :=
    List.pairwise_mergeSort (fun a b c hab hbc => by
      simpa using String.le_trans (of_decide_eq_true hab) (of_decide_eq_true hbc))
      (fun a b => by simpa using String.le_total a b) _
  have hnodup : set.names.Nodup := (List.mergeSort_perm _ _).nodup_iff.mpr (Lists.nodup_eraseDups _)
  refine (hsorted.and hnodup).imp fun {a b} hpair => ?_
  by_contra hnot
  exact hpair.2 (String.le_antisymm (of_decide_eq_true hpair.1) (String.not_lt.mp hnot))

/-- Whether a row of a table stands for the nearest definition of a name, with the signature of that definition. -/
def IsRow (set : FunctionSet σ) (name : String) (row : String × String) : Prop :=
  ∃ definition, set.nearest? name = some definition ∧ definition.isFunction = true ∧
    row = ((Signature.ofParameters name (definition.parameters.drop 1)).toText, name)

theorem exists_isRow (hname : name ∈ set.names) : ∃ row, set.IsRow name row := by
  obtain ⟨definition, hnearest, hfunction⟩ := exists_function_of_lists (lists_of_mem_names hname)
  exact ⟨_, definition, hnearest, hfunction, rfl⟩

theorem signed_of_isRow {row : String × String} (hrow : set.IsRow name row) :
    (do return ((← set.signature name).toText, name)) = (.ok row : Except Failure (String × String)) := by
  obtain ⟨definition, hnearest, hfunction, rfl⟩ := hrow
  rw [signature_eq hnearest hfunction]
  rfl

/-- Rows for different names have different signatures. -/
theorem name_eq_of_isRow (hplain : ∀ layer ∈ set.layers, ∀ member ∈ layer, Signature.isPlain member.1 = true)
    {other : String} {row otherRow : String × String} (hrow : set.IsRow name row) (hother : set.IsRow other otherRow)
    (htext : row.1 = otherRow.1) : name = other := by
  obtain ⟨definition, hnearest, -, rfl⟩ := hrow
  obtain ⟨otherDefinition, hotherNearest, -, rfl⟩ := hother
  obtain ⟨layer, hlayer, hmem⟩ := exists_mem_of_nearest? hnearest
  obtain ⟨otherLayer, hotherLayer, hotherMem⟩ := exists_mem_of_nearest? hotherNearest
  exact Signature.function_eq_of_toText_eq (hplain layer hlayer _ hmem)
    (hplain otherLayer hotherLayer _ hotherMem) htext

theorem exists_table (hplain : ∀ layer ∈ set.layers, ∀ member ∈ layer, Signature.isPlain member.1 = true) :
    ∃ table : FunctionTable, set.table = .ok table ∧ (table.map Prod.fst).Nodup ∧
      List.Forall₂ set.IsRow set.names table := by
  obtain ⟨rows, hrows⟩ := Lists.exists_forall₂_iff.mpr fun name hname => exists_isRow hname
  have hnodup : (rows.map Prod.fst).Nodup := by
    refine List.pairwise_map.mpr (Lists.pairwise_of_forall₂ ?_ hrows set.pairwise_names)
    intro name _ other _ row otherRow hrow hother hlt htext
    obtain rfl := name_eq_of_isRow hplain hrow hother htext
    exact String.lt_irrefl _ hlt
  refine ⟨rows, ?_, hnodup, hrows⟩
  have hsigned := Lists.mapM_ok_iff.mpr (hrows.imp fun _ _ hrow => signed_of_isRow hrow)
  rw [FunctionSet.table, hsigned]
  exact congrArg Except.ok (Assoc.insertAll_of_apart (Assoc.apart_iff_nodup.mpr hnodup))

/-- The functions of a set are the public names whose nearest definition is a method or a static method, in strict
order. There is one signature for each, rendered from that definition, and no two are the same. What a session starts
with is this table, unless there is no instance of the set. -/
theorem functions_listed_and_registered (set : FunctionSet σ)
    (hplain : ∀ layer ∈ set.layers, ∀ member ∈ layer, Signature.isPlain member.1 = true) :
    set.names.Pairwise (· < ·) ∧
    (∀ name, name ∈ set.names ↔
      isPublic name = true ∧
        ∃ nearer layer farther definition, set.layers = nearer ++ layer :: farther ∧
          (∀ other ∈ nearer, Assoc.find? (· == ·) name other = none) ∧
          Assoc.find? (· == ·) name layer = some definition ∧ definition.isFunction = true) ∧
    ∃ table : FunctionTable, set.table = .ok table ∧ (table.map Prod.fst).Nodup ∧
      List.Forall₂ set.IsRow set.names table ∧
      ∀ bag, (FunctionSession.start set bag).map FunctionSession.table = (set.instantiate bag).map fun _ => table := by
  obtain ⟨table, htable, hnodup, hrows⟩ := exists_table hplain
  refine ⟨set.pairwise_names, fun name => ?_, table, htable, hnodup, hrows, fun bag => ?_⟩
  · rw [mem_names_iff, lists_iff]
    refine and_congr_right fun _ => ?_
    simp only [nearest?, List.findSome?_eq_some_iff]
    constructor
    · rintro ⟨definition, ⟨nearer, layer, farther, hlayers, hfound, hnone⟩, hfunction⟩
      exact ⟨nearer, layer, farther, definition, hlayers, hnone, hfound, hfunction⟩
    · rintro ⟨nearer, layer, farther, definition, hlayers, hnone, hfound, hfunction⟩
      exact ⟨definition, ⟨nearer, layer, farther, hlayers, hfound, hnone⟩, hfunction⟩
  · rw [FunctionSession.start, htable]
    cases set.instantiate bag <;> rfl

/-- A set of three layers. Nearer layers hide a method by a property, and a class method by a static method. -/
def shades : FunctionSet Nat :=
  Scripted.functionSet "Shades"
    [[("_mark", Scripted.method [] .count),
        ("blend", Scripted.method [.positional "color" none, .rest "others"] .bindings),
        ("tint", Scripted.static [.positional "color" none, .positional "amount" (some .null)] (.argument 0))],
      [("tint", Scripted.classMethod [] .count), ("shade", Scripted.property .count)],
      [("tint", Scripted.method [] .count), ("shade", Scripted.method [] .count)]]

theorem names_shades : shades.names = ["blend", "tint"] :=
  names_of_ordered (by decide +kernel) (by decide +kernel)

theorem functions_listed_and_registered_shades :
    "shade" ∉ shades.names ∧
    (FunctionSession.start shades []).map FunctionSession.table =
      .ok [("blend($color, $others...)", "blend"), ("tint($amount: null)", "tint")] := by
  have htable : shades.table = .ok [("blend($color, $others...)", "blend"), ("tint($amount: null)", "tint")] := by
    rw [FunctionSet.table, names_shades]
    rfl
  obtain ⟨-, -, table, hregistered, -, -, hstart⟩ := shades.functions_listed_and_registered (by decide +kernel)
  refine ⟨?_, ?_⟩
  · rw [names_shades]
    decide
  · obtain rfl := Except.ok.inj (htable.symm.trans hregistered)
    rw [hstart []]
    rfl

/-- A set that cannot be set up, as its instances have no place for their options. -/
def sealed : FunctionSet Nat :=
  Scripted.functionSet "Sealed" [[("options", Scripted.property .count), ("tint", Scripted.method [] .count)]]

theorem no_table_of_sealed :
    (∀ layer ∈ sealed.layers, ∀ member ∈ layer, Signature.isPlain member.1 = true) ∧ sealed.names = ["tint"] ∧
    ∀ table, (FunctionSession.start sealed []).map FunctionSession.table ≠ .ok table := by
  exact ⟨by decide +kernel, names_of_ordered (by decide +kernel) (by decide +kernel), nofun⟩

end FunctionSet

end SassBridge
