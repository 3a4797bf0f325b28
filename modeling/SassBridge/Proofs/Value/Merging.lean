import SassBridge.Proofs.Value.RoundTrip

/-! Maps whose keys become equal when they are converted. Legacy strings of odd types, brackets of lists and the entries
of maps can be told apart before a conversion and not after it. -/

namespace SassBridge.Value

variable {value converted : Value} {entries pairs : List (Value × Value)}

/-- Whether the keys of a map are pairwise unequal, whichever is compared with the other. -/
def hasApartKeys : Value → Bool
  | map _ entries =>
    decide (entries.Pairwise fun entry other => entry.1.equal other.1 = false ∧ other.1.equal entry.1 = false)
  | _ => true

/-- Whether the dictionary among the brackets of a list, if there is one, was built. -/
def hasBuiltBrackets : Value → Bool
  | list _ _ _ bracketed => bracketed.isBuilt
  | _ => true

theorem hasApartKeys_of_isBuilt (hbuilt : value.everywhere isBuilt = true) :
    value.everywhere hasApartKeys = true := by
  refine everywhere_mono (fun part hpart => ?_) hbuilt
  cases part with
  | map side entries =>
      obtain ⟨hapart, hentries⟩ := everywhere_map_iff.mp hpart
      refine decide_eq_true ((of_decide_eq_true hapart).imp_of_mem fun {entry other} _ hother hne => ⟨hne, ?_⟩)
      exact Bool.eq_false_iff.mpr fun hequal =>
        Bool.eq_false_iff.mp hne (equal_symm (hentries other hother).1 hequal)
  | _ => rfl

/-- What was converted from the compiler is built where brackets were. -/
theorem isBuilt_toLegacy (hbrackets : value.everywhere hasBuiltBrackets = true)
    (hconverted : value.toLegacy = .ok converted) : converted.everywhere isBuilt = true := by
  induction value using Value.induction generalizing converted with
  | atom value =>
      obtain ⟨part, hpart, rfl⟩ := toLegacy_atom_iff.mp hconverted
      rcases Atom.toLegacy_cases hpart with ⟨-, rfl⟩ | ⟨_, -, rfl⟩ | ⟨_, -, rfl⟩ | ⟨_, -, rfl⟩ | ⟨_, _, -, rfl⟩ <;> rfl
  | list side elements separator bracketed ih =>
      obtain ⟨-, mark, -, parts, hparts, rfl⟩ := toLegacy_list_iff.mp hconverted
      rw [everywhere_list_iff] at hbrackets
      refine everywhere_list_iff.mpr ⟨hbrackets.1, fun part hpart => ?_⟩
      obtain ⟨element, helement, hto⟩ := Lists.exists_mem_of_forall₂ hparts hpart
      exact ih element helement (hbrackets.2 element helement) hto
  | map side entries ih =>
      obtain ⟨-, pairs, hpairs, rfl⟩ := toLegacy_map_iff.mp hconverted
      rw [everywhere_map_iff] at hbrackets
      refine everywhere_map_iff.mpr ⟨decide_eq_true (apart_entriesOf pairs), ?_⟩
      refine forall_mem_entriesOf (P := fun key => key.everywhere isBuilt = true)
        (Q := fun value => value.everywhere isBuilt = true) fun pair hpair => ?_
      obtain ⟨entry, hentry, hto⟩ := Lists.exists_mem_of_forall₂ hpairs hpair
      exact ⟨(ih entry hentry).1 (hbrackets.2 entry hentry).1 hto.1,
        (ih entry hentry).2 (hbrackets.2 entry hentry).2 hto.2⟩

theorem entriesOf_eq_merged (hbuilt : ∀ pair ∈ pairs, pair.1.everywhere isBuilt = true) :
    entriesOf pairs = Assoc.merged equal [] pairs := by
  rw [entriesOf_eq]
  exact Assoc.insertAll_eq_merged (fun _ _ _ => equal_trans) fun pair hpair _ _ => equal_symm (hbuilt pair hpair)

/-- Entries that are converted one for one in their order and then merged: those whose keys convert to equal ones become
one entry, in the place of the first of them and with the value of the last. -/
def AreMerged (convert : Value → Except Failure Value) (entries entries' : List (Value × Value)) : Prop :=
  ∃ pairs, List.Forall₂ (fun entry pair => convert entry.1 = .ok pair.1 ∧ convert entry.2 = .ok pair.2) entries pairs ∧
    entries' = Assoc.merged equal [] pairs

theorem areMerged_entriesOf {convert : Value → Except Failure Value}
    (hpairs : List.Forall₂ (fun entry pair => convert entry.1 = .ok pair.1 ∧ convert entry.2 = .ok pair.2)
      entries pairs)
    (hbuilt : ∀ entry ∈ entries, ∀ key, convert entry.1 = .ok key → key.everywhere isBuilt = true) :
    AreMerged convert entries (entriesOf pairs) := by
  refine ⟨pairs, hpairs, entriesOf_eq_merged fun pair hpair => ?_⟩
  obtain ⟨entry, hentry, hto⟩ := Lists.exists_mem_of_forall₂ hpairs hpair
  exact hbuilt entry hentry pair.1 hto.1

/-- A map that is converted, either way, has no two equal keys, and neither has any map within it. Its keys are what the
keys of the source convert to, each where it comes first, and each is bound to what the value of the last entry of the
source whose key converts to it does. Toward the compiler this holds of every map; from the compiler, of every map whose
lists have no brackets that cannot be made. -/
theorem colliding_keys_merged :
    (∀ {entries : List (Value × Value)} {converted : Value}, (map .legacy entries).toCompiler = .ok converted →
      converted.everywhere hasApartKeys = true ∧
        ∃ entries', converted = map .compiler entries' ∧ AreMerged toCompiler entries entries') ∧
    ∀ {entries : List (Value × Value)} {converted : Value},
      (map .compiler entries).everywhere hasBuiltBrackets = true → (map .compiler entries).toLegacy = .ok converted →
        converted.everywhere hasApartKeys = true ∧
          ∃ entries', converted = map .legacy entries' ∧ AreMerged toLegacy entries entries' := by
  refine ⟨fun {entries converted} hconverted => ?_, fun {entries converted} hbrackets hconverted => ?_⟩
  · refine ⟨hasApartKeys_of_isBuilt (isBuilt_toCompiler hconverted), ?_⟩
    obtain ⟨-, pairs, hpairs, rfl⟩ := toCompiler_map_iff.mp hconverted
    exact ⟨entriesOf pairs, rfl, areMerged_entriesOf hpairs fun _ _ _ => isBuilt_toCompiler⟩
  · refine ⟨hasApartKeys_of_isBuilt (isBuilt_toLegacy hbrackets hconverted), ?_⟩
    obtain ⟨-, pairs, hpairs, rfl⟩ := toLegacy_map_iff.mp hconverted
    refine ⟨entriesOf pairs, rfl, areMerged_entriesOf hpairs fun entry hentry _ => isBuilt_toLegacy ?_⟩
    exact ((everywhere_map_iff.mp hbrackets).2 entry hentry).1

/-- A number that is a NaN. -/
def notANumber (side : Side) (object : Nat) : Value :=
  atom (.number side ⟨.float (.nan object), [], []⟩)

/-- A map with two strings of one text for keys, whose types do not differ in meaning, and a map within it with such
maps for keys, of which two hold the same NaN and one another. -/
def labels : List (Value × Value) :=
  [(atom (.legacyString "a" stringType), atom (.bool .legacy true)),
    (atom (.legacyString "b" identifierType), map .legacy
      [(map .legacy [(notANumber .legacy 1, atom (.legacyString "c" stringType))], null),
        (map .legacy [(notANumber .legacy 2, atom (.legacyString "c" "tag"))], null),
        (map .legacy [(notANumber .legacy 1, atom (.legacyString "c" "tag"))], atom (.legacyString "d" "tag"))]),
    (atom (.legacyString "a" "tag"), atom (.bool .legacy false))]

/-- What the entries of `labels` are merged to. -/
def mergedLabels : List (Value × Value) :=
  [(atom (.compilerString "a" true), atom (.bool .compiler false)),
    (atom (.compilerString "b" false), map .compiler
      [(map .compiler [(notANumber .compiler 1, atom (.compilerString "c" true))], atom (.compilerString "d" true)),
        (map .compiler [(notANumber .compiler 2, atom (.compilerString "c" true))], atom (.null .compiler))])]

theorem colliding_keys_merged_labels :
    (map .legacy labels).toCompiler = .ok (map .compiler mergedLabels) ∧
      (map .compiler mergedLabels).everywhere hasApartKeys = true ∧ AreMerged toCompiler labels mergedLabels ∧
    ∃ entries', (map .compiler mergedLabels).toLegacy = .ok (map .legacy entries') ∧
      (map .legacy entries').everywhere hasApartKeys = true ∧ AreMerged toLegacy mergedLabels entries' := by
  have hconverted : (map .legacy labels).toCompiler = .ok (map .compiler mergedLabels) := rfl
  obtain ⟨hapart, entries', hentries', hmerged⟩ := colliding_keys_merged.1 hconverted
  obtain ⟨-, rfl⟩ := Value.map.inj hentries'
  obtain ⟨back, hback⟩ : ∃ back, (map .compiler mergedLabels).toLegacy = .ok back := ⟨_, rfl⟩
  obtain ⟨hapart', entries'', rfl, hmerged'⟩ := colliding_keys_merged.2 (by decide) hback
  exact ⟨hconverted, hapart, hmerged, entries'', hback, hapart', hmerged'⟩

end SassBridge.Value
