import SassBridge.Proofs.Value.RoundTrip

/-! Equality of what values convert to. Equal values convert to equal values, and faithful ones that differ to values
that differ, so that no entries of maps are merged: a map that is converted has its entries in their order, and whatever
is looked up in it is found where it was found before. -/

namespace SassBridge

theorem Atom.equal_toCompiler {a b a' b' : Atom} (ha : a.toCompiler = .ok a') (hb : b.toCompiler = .ok b')
    (hequal : a.equal b = true) : a'.equal b' = true := by
  rcases toCompiler_cases ha with
    ⟨rfl, rfl⟩ | ⟨truth, rfl, rfl⟩ | ⟨color, -, rfl, rfl⟩ | ⟨number, rfl, rfl⟩ | ⟨text, type, rfl, rfl⟩ <;>
  rcases toCompiler_cases hb with
    ⟨rfl, rfl⟩ | ⟨truth', rfl, rfl⟩ | ⟨color', -, rfl, rfl⟩ | ⟨number', rfl, rfl⟩ | ⟨text', type', rfl, rfl⟩ <;>
  simp_all [equal]

namespace Value

/-- Values that were built can be exchanged for equal ones in comparisons. -/
theorem equal_congr {a a' b b' : Value} (ha : a.everywhere isBuilt = true) (hb : b.everywhere isBuilt = true)
    (hleft : a.equal a' = true) (hright : b.equal b' = true) : a.equal b = a'.equal b' := by
  rw [Bool.eq_iff_iff]
  constructor
  · exact fun hequal => equal_trans (equal_symm ha hleft) (equal_trans hequal hright)
  · exact fun hequal => equal_trans hleft (equal_trans hequal (equal_symm hb hright))

/-- Maps that are built from equal pairs are equal. -/
theorem forall₂_entriesOf {pairs pairs' : List (Value × Value)}
    (hbuilt : ∀ pair ∈ pairs, pair.1.everywhere isBuilt = true)
    (hpairs : List.Forall₂ (fun pair pair' => pair.1.equal pair'.1 = true ∧ pair.2.equal pair'.2 = true) pairs pairs') :
    List.Forall₂ (fun entry entry' => entry.1.equal entry'.1 = true ∧ entry.2.equal entry'.2 = true)
      (entriesOf pairs) (entriesOf pairs') := by
  have hkeys : List.Forall₂ (fun pair pair' : Value × Value =>
      (pair.1.everywhere isBuilt = true ∧ pair.1.equal pair'.1 = true) ∧ pair.2.equal pair'.2 = true) pairs pairs' :=
    Lists.forall₂_imp_of_mem (fun pair hmem _ _ hequal => ⟨⟨hbuilt pair hmem, hequal.1⟩, hequal.2⟩) hpairs
  have hsame : ∀ k k' l l' : Value, k.everywhere isBuilt = true ∧ k.equal k' = true →
      l.everywhere isBuilt = true ∧ l.equal l' = true → k.equal l = k'.equal l' :=
    fun _ _ _ _ hkey hother => equal_congr hkey.1 hother.1 hkey.2 hother.2
  have hentries := Assoc.forall₂_insertAll (S := fun a b : Value => a.equal b = true) hsame .nil hkeys
  exact hentries.imp fun _ _ hentry => ⟨hentry.1.2, hentry.2⟩

/-- Equal values convert to equal values. -/
theorem equal_toCompiler {a b a' b' : Value} (ha : a.toCompiler = .ok a') (hb : b.toCompiler = .ok b')
    (hequal : a.equal b = true) : a'.equal b' = true := by
  induction a using Value.induction generalizing b a' b' with
  | atom a =>
      cases b with
      | atom b =>
          obtain ⟨part, hpart, rfl⟩ := toCompiler_atom_iff.mp ha
          obtain ⟨part', hpart', rfl⟩ := toCompiler_atom_iff.mp hb
          exact equal_atom_iff.mpr (Atom.equal_toCompiler hpart hpart' (equal_atom_iff.mp hequal))
      | _ => simp [equal] at hequal
  | list s as sep brackets ih =>
      cases b with
      | list t bs sep' brackets' =>
          obtain ⟨-, mark, hmark, parts, hparts, rfl⟩ := toCompiler_list_iff.mp ha
          obtain ⟨-, mark', hmark', parts', hparts', rfl⟩ := toCompiler_list_iff.mp hb
          obtain ⟨-, helements, rfl, hbrackets⟩ := equal_list_iff.mp hequal
          have hsame : mark = mark' := Option.some.inj (hmark.symm.trans hmark')
          -- the parts of both are what an element of the first, or one equal to it, converts to
          have hto : List.Forall₂ (fun a part' => ∃ b, a.equal b = true ∧ b.toCompiler = .ok part') as parts' :=
            Lists.forall₂_comp_of_mem (fun _ _ b _ hequal hto => ⟨b, hequal, hto⟩) helements hparts'
          refine equal_list_iff.mpr ⟨rfl, ?_, congrArg some hsame, ?_⟩
          · refine Lists.forall₂_of_common (fun a hmem part part' hpart => ?_) hparts hto
            rintro ⟨b, hequal, hpart'⟩
            exact ih a hmem hpart hpart' hequal
          · rw [Datum.isTrue_eq_of_equal hbrackets]
            exact (Datum.equal_numeral_iff rfl).mpr ⟨_, rfl, Numeral.equal_self _⟩
      | _ => simp [equal] at hequal
  | map s as ih =>
      cases b with
      | map t bs =>
          obtain ⟨-, pairs, hpairs, rfl⟩ := toCompiler_map_iff.mp ha
          obtain ⟨-, pairs', hpairs', rfl⟩ := toCompiler_map_iff.mp hb
          obtain ⟨-, hentries⟩ := equal_map_iff.mp hequal
          have hto : List.Forall₂ (fun a pair' : Value × Value => ∃ b : Value × Value,
              (a.1.equal b.1 = true ∧ a.2.equal b.2 = true) ∧
                b.1.toCompiler = .ok pair'.1 ∧ b.2.toCompiler = .ok pair'.2) as pairs' :=
            Lists.forall₂_comp_of_mem (fun _ _ b _ hequal hto => ⟨b, hequal, hto⟩) hentries hpairs'
          refine equal_map_iff.mpr ⟨rfl, forall₂_entriesOf ?_ ?_⟩
          · intro pair hmem
            obtain ⟨a, -, hpair⟩ := Lists.exists_mem_of_forall₂ hpairs hmem
            exact isBuilt_toCompiler hpair.1
          · refine Lists.forall₂_of_common (fun a hmem pair pair' hpair => ?_) hpairs hto
            rintro ⟨b, hequal, hpair'⟩
            exact ⟨(ih a hmem).1 hpair.1 hpair'.1 hequal.1, (ih a hmem).2 hpair.2 hpair'.2 hequal.2⟩
      | _ => simp [equal] at hequal

/-- A legacy value that keeps all of itself when it is converted. -/
structure IsFaithful (value : Value) : Prop where
  built : value.everywhere isBuilt = true
  knownTypes : value.everywhere hasKnownType = true
  truthBrackets : value.everywhere hasTruthBrackets = true

/-- A value of the compiler with separators that both families have. -/
structure IsShared (value : Value) : Prop where
  family : value.everywhere (isOf .compiler) = true
  built : value.everywhere isBuilt = true

theorem hasPlainBrackets_of_truth {value : Value} (htruth : value.everywhere hasTruthBrackets = true) :
    value.everywhere hasPlainBrackets = true := by
  refine everywhere_mono (fun part hpart => ?_) htruth
  have hown := check_of_everywhere hpart
  cases part with
  | list side elements separator bracketed =>
      cases bracketed with
      | bool truth => exact (Datum.equal_numeral_iff rfl).mpr ⟨_, rfl, Numeral.equal_self _⟩
      | _ => cases hown
  | _ => rfl

theorem reduceBrackets_of_truth {value : Value} (htruth : value.everywhere hasTruthBrackets = true) :
    value.reduceBrackets = value := by
  induction value using Value.induction with
  | atom own => exact reduceBrackets_atom
  | list side elements separator bracketed ih =>
      rw [everywhere_list_iff] at htruth
      have helements : elements.map reduceBrackets = elements :=
        (List.map_congr_left fun element hmem => ih element hmem (htruth.2 element hmem)).trans (List.map_id _)
      have hbrackets : Datum.bool bracketed.isTrue = bracketed := by
        cases bracketed with
        | bool truth => rfl
        | _ => cases htruth.1
      rw [reduceBrackets_list, helements, hbrackets]
  | map side entries ih =>
      rw [everywhere_map_iff] at htruth
      have hentries : entries.map (fun entry => (entry.1.reduceBrackets, entry.2.reduceBrackets)) = entries := by
        refine (List.map_congr_left fun entry hmem => ?_).trans (List.map_id _)
        exact congrArg₂ Prod.mk ((ih entry hmem).1 (htruth.2 entry hmem).1) ((ih entry hmem).2 (htruth.2 entry hmem).2)
      rw [reduceBrackets_map, hentries]

theorem IsFaithful.legacyForm_eq {value converted : Value} (hfaithful : value.IsFaithful)
    (hconverted : value.toCompiler = .ok converted) : converted.legacyForm = value := by
  rw [legacyForm_toCompiler hfaithful.built hfaithful.knownTypes
    (hasPlainBrackets_of_truth hfaithful.truthBrackets) hconverted]
  exact reduceBrackets_of_truth hfaithful.truthBrackets

/-- Faithful values convert to equal values only if they are equal. -/
theorem IsFaithful.equal_toCompiler_eq {a b a' b' : Value} (ha : a.IsFaithful) (hb : b.IsFaithful)
    (ha' : a.toCompiler = .ok a') (hb' : b.toCompiler = .ok b') : a'.equal b' = a.equal b := by
  rw [Bool.eq_iff_iff]
  constructor
  · intro hequal
    rw [← ha.legacyForm_eq ha', ← hb.legacyForm_eq hb']
    exact (equal_legacyForm_iff (isOf_toCompiler ha') (isOf_toCompiler hb')).mpr hequal
  · exact equal_toCompiler ha' hb'

theorem IsShared.equal_toLegacy_eq {a b a' b' : Value} (ha : a.IsShared) (hb : b.IsShared)
    (ha' : a.toLegacy = .ok a') (hb' : b.toLegacy = .ok b') : a'.equal b' = a.equal b := by
  rw [toLegacy_eq_legacyForm ha.family ha.built, Except.ok.injEq] at ha'
  rw [toLegacy_eq_legacyForm hb.family hb.built, Except.ok.injEq] at hb'
  rw [← ha', ← hb', Bool.eq_iff_iff]
  exact equal_legacyForm_iff ha.family hb.family

variable {side : Side} {entries : List (Value × Value)}

theorem IsFaithful.key (hfaithful : (map side entries).IsFaithful) {entry : Value × Value} (hmem : entry ∈ entries) :
    entry.1.IsFaithful where
  built := ((everywhere_map_iff.mp hfaithful.built).2 entry hmem).1
  knownTypes := ((everywhere_map_iff.mp hfaithful.knownTypes).2 entry hmem).1
  truthBrackets := ((everywhere_map_iff.mp hfaithful.truthBrackets).2 entry hmem).1

theorem IsShared.key (hshared : (map side entries).IsShared) {entry : Value × Value} (hmem : entry ∈ entries) :
    entry.1.IsShared where
  family := ((everywhere_map_iff.mp hshared.family).2 entry hmem).1
  built := ((everywhere_map_iff.mp hshared.built).2 entry hmem).1

/-- Entries that are converted one for one in their order, and that are found under what the keys that find them, or
find nothing, convert to. -/
structure KeepsEntries (convert : Value → Except Failure Value) (IsKey : Value → Prop)
    (entries entries' : List (Value × Value)) : Prop where
  inOrder : List.Forall₂ (fun entry entry' => convert entry.1 = .ok entry'.1 ∧ convert entry.2 = .ok entry'.2)
    entries entries'
  found : ∀ key key', IsKey key → convert key = .ok key' →
    Option.Rel (fun value value' => convert value = .ok value') (Assoc.find? equal key entries)
      (Assoc.find? equal key' entries')

theorem KeepsEntries.isSome_find? {convert : Value → Except Failure Value} {IsKey : Value → Prop}
    {entries' : List (Value × Value)} (hkeeps : KeepsEntries convert IsKey entries entries') {key key' : Value}
    (hkey : IsKey key) (hkey' : convert key = .ok key') :
    (Assoc.find? equal key' entries').isSome = (Assoc.find? equal key entries).isSome := by
  have hfound := hkeeps.found key key' hkey hkey'
  revert hfound
  cases Assoc.find? equal key entries <;> cases Assoc.find? equal key' entries' <;> rintro ⟨⟩ <;> rfl

/-- A conversion that keeps whether keys are equal keeps the entries of maps. -/
theorem keepsEntries_of_equal {convert : Value → Except Failure Value} {IsKey : Value → Prop}
    (hconvert : ∀ a b a' b', IsKey a → IsKey b → convert a = .ok a' → convert b = .ok b' → a'.equal b' = a.equal b)
    (hapart : Assoc.Apart equal entries) (hkeys : ∀ entry ∈ entries, IsKey entry.1) {pairs : List (Value × Value)}
    (hpairs : List.Forall₂ (fun entry pair => convert entry.1 = .ok pair.1 ∧ convert entry.2 = .ok pair.2)
      entries pairs) : KeepsEntries convert IsKey entries (entriesOf pairs) := by
  have hsame : ∀ k k' l l', IsKey k ∧ convert k = .ok k' → IsKey l ∧ convert l = .ok l' → k.equal l = k'.equal l' :=
    fun k k' l l' hkey hother => (hconvert k l k' l' hkey.1 hother.1 hkey.2 hother.2).symm
  have hbound : List.Forall₂ (fun entry pair : Value × Value =>
      (IsKey entry.1 ∧ convert entry.1 = .ok pair.1) ∧ convert entry.2 = .ok pair.2) entries pairs :=
    Lists.forall₂_imp_of_mem (fun entry hmem _ _ hto => ⟨⟨hkeys entry hmem, hto.1⟩, hto.2⟩) hpairs
  -- binding the entries again changes nothing in the first map, so that nothing is merged in the second
  have hentries := Assoc.forall₂_insertAll (S := fun value value' => convert value = .ok value') hsame .nil hbound
  rw [← entriesOf_eq, ← entriesOf_eq, entriesOf_of_apart hapart] at hentries
  refine ⟨hentries.imp fun _ _ hentry => ⟨hentry.1.2, hentry.2⟩, fun key key' hkey hkey' => ?_⟩
  exact Assoc.rel_find? hsame hentries ⟨hkey, hkey'⟩

theorem IsFaithful.toCompiler_keepsEntries {converted : Value} (hfaithful : (map side entries).IsFaithful)
    (hconverted : (map side entries).toCompiler = .ok converted) :
    ∃ entries', converted = map .compiler entries' ∧ KeepsEntries toCompiler IsFaithful entries entries' := by
  obtain ⟨-, pairs, hpairs, rfl⟩ := toCompiler_map_iff.mp hconverted
  have hapart : Assoc.Apart equal entries := of_decide_eq_true (check_of_everywhere hfaithful.built)
  refine ⟨entriesOf pairs, rfl, keepsEntries_of_equal ?_ hapart (fun _ hmem => hfaithful.key hmem) hpairs⟩
  exact fun _ _ _ _ ha hb => ha.equal_toCompiler_eq hb

theorem IsShared.toLegacy_keepsEntries (hshared : (map side entries).IsShared) :
    ∃ entries', (map side entries).toLegacy = .ok (map .legacy entries') ∧
      KeepsEntries toLegacy IsShared entries entries' := by
  have hconverted := toLegacy_eq_legacyForm hshared.family hshared.built
  obtain ⟨-, pairs, hpairs, hform⟩ := toLegacy_map_iff.mp hconverted
  have hapart : Assoc.Apart equal entries := of_decide_eq_true (check_of_everywhere hshared.built)
  rw [hform] at hconverted
  refine ⟨entriesOf pairs, hconverted,
    keepsEntries_of_equal ?_ hapart (fun _ hmem => hshared.key hmem) hpairs⟩
  exact fun _ _ _ _ ha hb => ha.equal_toLegacy_eq hb

/-- Conversions neither merge values nor split them. Toward the compiler equal values stay equal and, where both are
faithful, others stay apart; from the compiler every two values with separators that both families have convert, to
equal values if and only if they are equal. So a map of such values is converted entry for entry in the same order, and
what is looked up in it is found where it was. -/
theorem conversions_keep_equality :
    (∀ {a b a' b' : Value}, a.toCompiler = .ok a' → b.toCompiler = .ok b' →
      (a.equal b = true → a'.equal b' = true) ∧
        (a.IsFaithful → b.IsFaithful → a'.equal b' = true → a.equal b = true)) ∧
    (∀ {a b : Value}, a.IsShared → b.IsShared →
      ∃ a' b', a.toLegacy = .ok a' ∧ b.toLegacy = .ok b' ∧ (a.equal b = true ↔ a'.equal b' = true)) ∧
    (∀ {entries : List (Value × Value)} {converted : Value}, (map .legacy entries).IsFaithful →
      (map .legacy entries).toCompiler = .ok converted →
        ∃ entries', converted = map .compiler entries' ∧ KeepsEntries toCompiler IsFaithful entries entries') ∧
    ∀ {entries : List (Value × Value)}, (map .compiler entries).IsShared →
      ∃ entries', (map .compiler entries).toLegacy = .ok (map .legacy entries') ∧
        KeepsEntries toLegacy IsShared entries entries' := by
  refine ⟨fun {a b a' b'} ha' hb' => ⟨equal_toCompiler ha' hb', fun ha hb hequal => ?_⟩, fun {a b} ha hb => ?_,
    fun hfaithful => hfaithful.toCompiler_keepsEntries, fun hshared => hshared.toLegacy_keepsEntries⟩
  · rw [← ha.equal_toCompiler_eq hb ha' hb']
    exact hequal
  · have ha' := toLegacy_eq_legacyForm ha.family ha.built
    have hb' := toLegacy_eq_legacyForm hb.family hb.built
    exact ⟨_, _, ha', hb', by rw [ha.equal_toLegacy_eq hb ha' hb']⟩

/-- A map that is looked up by a list of a number, and by an identifier and a string of the same text. -/
def measures : Value :=
  map .legacy
    [(list .legacy [atom (.number .legacy ⟨.int 2, ["px"], []⟩)] (some "comma") (.bool false),
        atom (.bool .legacy true)),
      (atom (.legacyString "thick" stringType), null),
      (atom (.legacyString "thick" identifierType), list .legacy [] (some "space") (.bool true))]

/-- The first key of `measures`, with its number as a double. -/
def measure : Value :=
  list .legacy [atom (.number .legacy ⟨.float (.finite false 4503599627370496 1023), ["px"], []⟩)] (some "comma")
    (.bool false)

theorem conversions_keep_equality_measures :
    ∃ entries' entries'' key' key'',
      measures.toCompiler = .ok (map .compiler entries') ∧
      (map .compiler entries').toLegacy = .ok (map .legacy entries'') ∧
      measure.toCompiler = .ok key' ∧ key'.toLegacy = .ok key'' ∧
      entries'.length = 3 ∧ entries''.length = 3 ∧
      (Assoc.find? equal key' entries').isSome ∧ (Assoc.find? equal key'' entries'').isSome := by
  obtain ⟨converted, hconverted⟩ := exists_toCompiler_iff.mpr
    (show measures.everywhere (isOf .legacy) = true ∧ measures.everywhere alphaInRange = true by decide +kernel)
  obtain ⟨key', hkey'⟩ := exists_toCompiler_iff.mpr
    (show measure.everywhere (isOf .legacy) = true ∧ measure.everywhere alphaInRange = true by decide +kernel)
  have hmeasures : measures.IsFaithful :=
    ⟨by decide +kernel, by decide +kernel, by decide +kernel⟩
  have hmeasure : measure.IsFaithful := ⟨by decide +kernel, by decide +kernel, by decide +kernel⟩
  obtain ⟨-, hshared, hlegacy, hcompiler⟩ := conversions_keep_equality
  obtain ⟨entries', rfl, hkept⟩ := hlegacy hmeasures hconverted
  obtain ⟨entries'', hback, hkept'⟩ := hcompiler ⟨isOf_toCompiler hconverted, isBuilt_toCompiler hconverted⟩
  have hown : key'.IsShared := ⟨isOf_toCompiler hkey', isBuilt_toCompiler hkey'⟩
  obtain ⟨key'', -, hkey'', -, -⟩ := hshared hown hown
  have hfound : (Assoc.find? equal key' entries').isSome = true := by
    rw [hkept.isSome_find? hmeasure hkey']
    decide +kernel
  refine ⟨entries', entries'', key', key'', hconverted, hback, hkey', hkey'', hkept.inOrder.length_eq.symm,
    hkept'.inOrder.length_eq.symm.trans hkept.inOrder.length_eq.symm, hfound, ?_⟩
  rw [hkept'.isSome_find? hown hkey'']
  exact hfound

end Value

end SassBridge
