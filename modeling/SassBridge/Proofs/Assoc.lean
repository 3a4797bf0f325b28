import Mathlib.Data.List.Forall2
import Mathlib.Data.List.Pairwise
import SassBridge.Assoc

/-! Binding keys and looking up what was bound. Keys are compared by whatever comparison the list is used with;
what is asked of it stands with each statement. -/

namespace SassBridge.Assoc

variable {κ α : Type} {same : κ → κ → Bool} {key other : κ}

theorem find?_insert_of_apart (hapart : same key other = false)
    (happarts : ∀ k, same k key = true → same k other = false) (value : α) (entries : List (κ × α)) :
    find? same other (insert same key value entries) = find? same other entries := by
  induction entries with
  | nil => simp [insert, find?, hapart]
  | cons entry entries ih =>
      rw [insert]
      split
      · next hsame => simp [find?, happarts _ hsame]
      · simp only [find?, ih]

section Binding

theorem insert_of_apart {entries : List (κ × α)} (hapart : ∀ entry ∈ entries, same entry.1 key = false)
    (value : α) : insert same key value entries = entries ++ [(key, value)] := by
  induction entries with
  | nil => rfl
  | cons entry entries ih =>
      rw [List.forall_mem_cons] at hapart
      rw [insert, if_neg (by simp [hapart.1]), ih hapart.2, List.cons_append]

/-- A key that is bound already keeps its spelling and its place. -/
theorem map_fst_insert_of_bound {entries : List (κ × α)} (hbound : ∃ entry ∈ entries, same entry.1 key = true)
    (value : α) : (insert same key value entries).map Prod.fst = entries.map Prod.fst := by
  induction entries with
  | nil => simp at hbound
  | cons entry entries ih =>
      rw [insert]
      by_cases hsame : same entry.1 key = true
      · rw [if_pos hsame]
        rfl
      · have htail : ∃ entry ∈ entries, same entry.1 key = true := by
          obtain ⟨other, hother, hequal⟩ := hbound
          rcases List.mem_cons.mp hother with rfl | hmem
          · exact absurd hequal hsame
          · exact ⟨other, hmem, hequal⟩
        rw [if_neg hsame, List.map_cons, ih htail, List.map_cons]

theorem bound_or_apart (same : κ → κ → Bool) (key : κ) (entries : List (κ × α)) :
    (∃ entry ∈ entries, same entry.1 key = true) ∨ ∀ entry ∈ entries, same entry.1 key = false := by
  by_cases hbound : ∃ entry ∈ entries, same entry.1 key = true
  · exact Or.inl hbound
  · exact Or.inr fun entry hentry => by simpa using fun hsame => hbound ⟨entry, hentry, hsame⟩

/-- Whether no key is the same as an earlier one. -/
def Apart (same : κ → κ → Bool) (entries : List (κ × α)) : Prop :=
  entries.Pairwise fun earlier later => same earlier.1 later.1 = false

instance (entries : List (κ × α)) : Decidable (Apart same entries) :=
  inferInstanceAs (Decidable (entries.Pairwise _))

theorem apart_iff_map_fst {entries : List (κ × α)} :
    Apart same entries ↔ (entries.map Prod.fst).Pairwise fun earlier later => same earlier later = false := by
  rw [Apart, List.pairwise_map]

theorem apart_insert {entries : List (κ × α)} (hentries : Apart same entries) (value : α) :
    Apart same (insert same key value entries) := by
  rcases bound_or_apart same key entries with hbound | hapart
  · rw [apart_iff_map_fst, map_fst_insert_of_bound hbound]
    exact apart_iff_map_fst.mp hentries
  · rw [insert_of_apart hapart]
    refine List.pairwise_append.mpr ⟨hentries, List.pairwise_singleton _ _, fun entry hentry other hother => ?_⟩
    rw [List.mem_singleton.mp hother]
    exact hapart entry hentry

theorem apart_insertAll {entries : List (κ × α)} (hentries : Apart same entries) (pairs : List (κ × α)) :
    Apart same (insertAll same entries pairs) := by
  induction pairs generalizing entries with
  | nil => exact hentries
  | cons pair pairs ih => exact ih (apart_insert hentries pair.2)

theorem insertAll_cons (entries pairs : List (κ × α)) (pair : κ × α) :
    insertAll same entries (pair :: pairs) = insertAll same (insert same pair.1 pair.2 entries) pairs := rfl

/-- Nothing is replaced if no key is the same as an earlier one. -/
theorem insertAll_of_apart {entries pairs : List (κ × α)} (hapart : Apart same (entries ++ pairs)) :
    insertAll same entries pairs = entries ++ pairs := by
  induction pairs generalizing entries with
  | nil => simp [insertAll]
  | cons pair pairs ih =>
      have hpair : ∀ entry ∈ entries, same entry.1 pair.1 = false := by
        intro entry hentry
        exact (List.pairwise_append.mp hapart).2.2 entry hentry pair List.mem_cons_self
      rw [insertAll_cons, insert_of_apart hpair, ih (by simpa using hapart), List.append_assoc, List.singleton_append]

theorem length_insert_le (same : κ → κ → Bool) (key : κ) (entries : List (κ × α)) (value : α) :
    (insert same key value entries).length ≤ entries.length + 1 := by
  rcases bound_or_apart same key entries with hbound | hapart
  · have hkeys := congrArg List.length (map_fst_insert_of_bound hbound value)
    rw [List.length_map, List.length_map] at hkeys
    omega
  · simp [insert_of_apart hapart]

theorem length_insertAll_le (same : κ → κ → Bool) (entries pairs : List (κ × α)) :
    (insertAll same entries pairs).length ≤ entries.length + pairs.length := by
  induction pairs generalizing entries with
  | nil => simp [insertAll]
  | cons pair pairs ih =>
      have hinsert := length_insert_le same pair.1 entries pair.2
      have hrest := ih (insert same pair.1 pair.2 entries)
      rw [insertAll_cons, List.length_cons]
      omega

/-- If there are as many entries as pairs, none was replaced. -/
theorem insertAll_of_length {entries pairs : List (κ × α)}
    (hlength : (insertAll same entries pairs).length = entries.length + pairs.length) :
    insertAll same entries pairs = entries ++ pairs := by
  induction pairs generalizing entries with
  | nil => simp [insertAll]
  | cons pair pairs ih =>
      rw [insertAll_cons] at hlength ⊢
      rw [List.length_cons] at hlength
      rcases bound_or_apart same pair.1 entries with hbound | hapart
      · have hkeys := congrArg List.length (map_fst_insert_of_bound hbound pair.2)
        have hrest := length_insertAll_le same (insert same pair.1 pair.2 entries) pairs
        rw [List.length_map, List.length_map] at hkeys
        omega
      · rw [insert_of_apart hapart] at hlength ⊢
        have htail := ih (by rw [hlength, List.length_append, List.length_singleton]; omega)
        rw [htail, List.append_assoc, List.singleton_append]

variable {P : κ → Prop} {Q : α → Prop}

theorem forall_mem_insert {value : α} {entries : List (κ × α)} (hentries : ∀ entry ∈ entries, P entry.1 ∧ Q entry.2)
    (hkey : P key) (hvalue : Q value) : ∀ entry ∈ insert same key value entries, P entry.1 ∧ Q entry.2 := by
  induction entries with
  | nil => simp [insert, hkey, hvalue]
  | cons entry entries ih =>
      rw [List.forall_mem_cons] at hentries
      rw [insert]
      split
      · exact List.forall_mem_cons.mpr ⟨⟨hentries.1.1, hvalue⟩, hentries.2⟩
      · exact List.forall_mem_cons.mpr ⟨hentries.1, ih hentries.2⟩

/-- Keys and values of the entries are among those that were bound. -/
theorem forall_mem_insertAll {entries pairs : List (κ × α)} (hentries : ∀ entry ∈ entries, P entry.1 ∧ Q entry.2)
    (hpairs : ∀ pair ∈ pairs, P pair.1 ∧ Q pair.2) :
    ∀ entry ∈ insertAll same entries pairs, P entry.1 ∧ Q entry.2 := by
  induction pairs generalizing entries with
  | nil => exact hentries
  | cons pair pairs ih =>
      rw [List.forall_mem_cons] at hpairs
      exact ih (forall_mem_insert hentries hpairs.1.1 hpairs.1.2) hpairs.2

end Binding

section Merging

/-! What binding pairs one after another comes to: every key in the place and the spelling of its first pair, with the
value of its last one. A key need not be the same as itself; one that is not is bound once more each time. -/

/-- The value of the last of the pairs with a key, or the given value if none has it. -/
def lastValue (same : κ → κ → Bool) (key : κ) (value : α) (pairs : List (κ × α)) : α :=
  ((pairs.filter (same key ·.1)).getLast?.map Prod.snd).getD value

/-- Of the pairs those whose keys are not the same as an earlier one, each with the value of the last of the pairs from
there on that has its key. -/
def merged (same : κ → κ → Bool) (earlier : List κ) : List (κ × α) → List (κ × α)
  | [] => []
  | (key, value) :: pairs =>
    if earlier.any (same · key) then merged same (key :: earlier) pairs
    else (key, lastValue same key value pairs) :: merged same (key :: earlier) pairs

/-- Pairs whose keys are not the same as one of the earlier ones. -/
def others (same : κ → κ → Bool) (earlier : List κ) (pairs : List (κ × α)) : List (κ × α) :=
  pairs.filter fun pair => !earlier.any (same · pair.1)

theorem lastValue_cons (key : κ) (value : α) (pair : κ × α) (pairs : List (κ × α)) :
    lastValue same key value (pair :: pairs) =
      lastValue same key (if same key pair.1 then pair.2 else value) pairs := by
  rw [lastValue, lastValue, List.filter_cons]
  split
  · rw [List.getLast?_cons, Option.map_some, Option.getD_some, Option.getD_map]
  · rfl

/-- The first entry takes the values of all pairs with its key, and the others go to the rest. -/
theorem insertAll_cons_entry (entry : κ × α) (entries pairs : List (κ × α)) :
    insertAll same (entry :: entries) pairs =
      (entry.1, lastValue same entry.1 entry.2 pairs) ::
        insertAll same entries (pairs.filter fun pair => !same entry.1 pair.1) := by
  induction pairs generalizing entry entries with
  | nil => rfl
  | cons pair pairs ih =>
      rw [insertAll_cons, insert, lastValue_cons]
      split
      · next hsame => rw [ih, List.filter_cons, if_neg (by simp [hsame])]
      · next hsame => rw [ih, List.filter_cons, if_pos (by simp [hsame]), insertAll_cons]

variable {earlier : List κ} {pairs : List (κ × α)}

theorem others_cons (pair : κ × α) : others same earlier (pair :: pairs) =
    if earlier.any (same · pair.1) then others same earlier pairs else pair :: others same earlier pairs := by
  rw [others, List.filter_cons]
  cases earlier.any (same · pair.1) <;> rfl

theorem others_cons_key (key : κ) :
    others same (key :: earlier) pairs = (others same earlier pairs).filter fun pair => !same key pair.1 := by
  rw [others, others, List.filter_filter]
  exact List.filter_congr fun pair _ => by rw [List.any_cons, Bool.not_or]

section Equivalent

variable (htrans : ∀ k l m, same k l = true → same l m = true → same k m = true)

include htrans

/-- A key that is the same as an earlier one leaves out nothing more. -/
theorem others_cons_of_any (hkey : earlier.any (same · key) = true) :
    others same (key :: earlier) pairs = others same earlier pairs := by
  obtain ⟨first, hfirst, hsame⟩ := List.any_eq_true.mp hkey
  refine List.filter_congr fun pair _ => congrArg not ?_
  rw [List.any_cons, Bool.or_eq_right_iff_imp]
  exact fun hpair => List.any_eq_true.mpr ⟨first, hfirst, htrans _ _ _ hsame hpair⟩

/-- A key apart from the earlier ones has its last value among what they leave over. -/
theorem lastValue_others (hkey : earlier.any (same · key) = false)
    (hsymm : ∀ pair ∈ pairs, same key pair.1 = true → same pair.1 key = true) (value : α) :
    lastValue same key value (others same earlier pairs) = lastValue same key value pairs := by
  have hkept : (others same earlier pairs).filter (same key ·.1) = pairs.filter (same key ·.1) := by
    rw [others, List.filter_filter]
    refine List.filter_congr fun pair hmem => ?_
    rw [Bool.and_eq_left_iff_imp, Bool.not_eq_true']
    intro hpair
    rw [List.any_eq_false] at hkey ⊢
    exact fun first hfirst hsame => hkey first hfirst (htrans _ _ _ hsame (hsymm pair hmem hpair))
  rw [lastValue, lastValue, hkept]

theorem insertAll_others
    (hsymm : ∀ pair ∈ pairs, ∀ other ∈ pairs, same pair.1 other.1 = true → same other.1 pair.1 = true) :
    insertAll same [] (others same earlier pairs) = merged same earlier pairs := by
  induction pairs generalizing earlier with
  | nil => rfl
  | cons pair pairs ih =>
      have hrest : ∀ earlier, insertAll same [] (others same earlier pairs) = merged same earlier pairs :=
        fun earlier => ih fun first hfirst second hsecond =>
          hsymm first (List.mem_cons_of_mem _ hfirst) second (List.mem_cons_of_mem _ hsecond)
      rw [others_cons, merged]
      split
      · next hkey => rw [← hrest, others_cons_of_any htrans hkey]
      · next hkey =>
        have hpair := fun other hother =>
          hsymm pair List.mem_cons_self other (List.mem_cons_of_mem _ hother)
        rw [insertAll_cons, insert, insertAll_cons_entry, ← others_cons_key, hrest,
          lastValue_others htrans (Bool.eq_false_iff.mpr hkey) hpair]

/-- Bound one after another, pairs are merged. -/
theorem insertAll_eq_merged
    (hsymm : ∀ pair ∈ pairs, ∀ other ∈ pairs, same pair.1 other.1 = true → same other.1 pair.1 = true) :
    insertAll same [] pairs = merged same [] pairs := by
  have hall : others same [] pairs = pairs := List.filter_eq_self.mpr fun _ _ => rfl
  rw [← insertAll_others htrans hsymm, hall]

end Equivalent

end Merging

section Related

/-! Two lists whose keys are related entry by entry behave alike if the comparisons of related keys agree. -/

variable {κ' α' : Type} {same' : κ' → κ' → Bool} {R : κ → κ' → Prop} {S : α → α' → Prop} {key' : κ'}
  {entries : List (κ × α)} {entries' : List (κ' × α')}
  (hsame : ∀ k k' l l', R k k' → R l l' → same k l = same' k' l')

include hsame

theorem rel_find?
    (hentries : List.Forall₂ (fun entry entry' => R entry.1 entry'.1 ∧ S entry.2 entry'.2) entries entries')
    (hkey : R key key') : Option.Rel S (find? same key entries) (find? same' key' entries') := by
  induction hentries with
  | nil => exact .none
  | @cons entry entry' entries entries' hentry _ ih =>
      rw [find?, find?, hsame _ _ _ _ hentry.1 hkey]
      split
      · exact .some hentry.2
      · exact ih

theorem forall₂_insert {value : α} {value' : α'}
    (hentries : List.Forall₂ (fun entry entry' => R entry.1 entry'.1 ∧ S entry.2 entry'.2) entries entries')
    (hkey : R key key') (hvalue : S value value') :
    List.Forall₂ (fun entry entry' => R entry.1 entry'.1 ∧ S entry.2 entry'.2)
      (insert same key value entries) (insert same' key' value' entries') := by
  induction hentries with
  | nil => exact .cons ⟨hkey, hvalue⟩ .nil
  | @cons entry entry' entries entries' hentry hentries ih =>
      rw [insert, insert, hsame _ _ _ _ hentry.1 hkey]
      split
      · exact .cons ⟨hentry.1, hvalue⟩ hentries
      · exact .cons hentry ih

theorem forall₂_insertAll {pairs : List (κ × α)} {pairs' : List (κ' × α')}
    (hentries : List.Forall₂ (fun entry entry' => R entry.1 entry'.1 ∧ S entry.2 entry'.2) entries entries')
    (hpairs : List.Forall₂ (fun pair pair' => R pair.1 pair'.1 ∧ S pair.2 pair'.2) pairs pairs') :
    List.Forall₂ (fun entry entry' => R entry.1 entry'.1 ∧ S entry.2 entry'.2)
      (insertAll same entries pairs) (insertAll same' entries' pairs') := by
  induction hpairs generalizing entries entries' with
  | nil => exact hentries
  | cons hpair _ ih =>
      rw [insertAll_cons, insertAll_cons]
      exact ih (forall₂_insert hsame hentries hpair.1 hpair.2)

end Related

section LawfulKeys

variable [BEq κ] [LawfulBEq κ] {value : α} {entries : List (κ × α)}

theorem mem_of_find? (hfind : find? (· == ·) key entries = some value) : (key, value) ∈ entries := by
  induction entries with
  | nil => cases hfind
  | cons entry entries ih =>
      rw [find?] at hfind
      split at hfind
      · next hsame =>
        rw [← eq_of_beq hsame, ← Option.some.inj hfind]
        exact List.mem_cons_self
      · exact List.mem_cons_of_mem _ (ih hfind)

/-- No entry is there that was not bound as it is. -/
theorem mem_of_mem_insertAll {pairs : List (κ × α)} {entry : κ × α}
    (hmem : entry ∈ insertAll (· == ·) entries pairs) : entry ∈ entries ∨ entry ∈ pairs := by
  have hinsert : ∀ (pair : κ × α) (entries : List (κ × α)), entry ∈ insert (· == ·) pair.1 pair.2 entries →
      entry ∈ entries ∨ entry = pair := by
    intro pair entries hentry
    induction entries with
    | nil => exact Or.inr (List.mem_singleton.mp hentry)
    | cons first entries ih =>
        rw [insert] at hentry
        split at hentry
        · next hsame =>
          rw [eq_of_beq hsame, List.mem_cons] at hentry
          exact hentry.symm.imp_left (List.mem_cons_of_mem _)
        · rcases List.mem_cons.mp hentry with rfl | htail
          · exact Or.inl List.mem_cons_self
          · exact (ih htail).imp_left (List.mem_cons_of_mem _)
  induction pairs generalizing entries with
  | nil => exact Or.inl hmem
  | cons pair pairs ih =>
      rcases ih hmem with hbefore | hlater
      · refine (hinsert pair entries hbefore).imp_right fun hpair => ?_
        rw [hpair]
        exact List.mem_cons_self
      · exact Or.inr (List.mem_cons_of_mem _ hlater)

/-- Among distinct keys each entry is the one that is found. -/
theorem find?_of_mem (hnodup : (entries.map Prod.fst).Nodup) (hmem : (key, value) ∈ entries) :
    find? (· == ·) key entries = some value := by
  induction entries with
  | nil => cases hmem
  | cons entry entries ih =>
      rw [List.map_cons, List.nodup_cons] at hnodup
      rcases List.mem_cons.mp hmem with heq | htail
      · rw [← heq, find?, if_pos (beq_self_eq_true key)]
      · have hne : entry.1 ≠ key := by
          rintro rfl
          exact hnodup.1 (List.mem_map.mpr ⟨_, htail, rfl⟩)
        rw [find?, if_neg (by simpa using hne)]
        exact ih hnodup.2 htail

theorem apart_iff_nodup : Apart (· == ·) entries ↔ (entries.map Prod.fst).Nodup := by
  rw [apart_iff_map_fst, List.Nodup]
  simp only [beq_eq_false_iff_ne]

/-- Binding a key that is bound replaces its value and keeps every other entry. -/
theorem forall₂_insert_of_find? {given : α} (hnodup : (entries.map Prod.fst).Nodup)
    (hfind : find? (· == ·) key entries = some given) (value : α) :
    List.Forall₂ (fun entry kept => (entry = (key, given) ∧ kept = (key, value)) ∨ (entry.1 ≠ key ∧ kept = entry))
      entries (insert (· == ·) key value entries) := by
  induction entries with
  | nil => cases hfind
  | cons entry entries ih =>
      rw [List.map_cons, List.nodup_cons] at hnodup
      rw [find?] at hfind
      rw [insert]
      split at hfind
      · next hsame =>
        have hkey : entry.1 = key := eq_of_beq hsame
        have hother : ∀ other ∈ entries, other.1 ≠ key := by
          rintro other hother rfl
          exact hnodup.1 (List.mem_map.mpr ⟨other, hother, hkey.symm⟩)
        rw [if_pos hsame]
        refine .cons (Or.inl ⟨Prod.ext hkey (Option.some.inj hfind), Prod.ext hkey rfl⟩) ?_
        exact List.forall₂_same.mpr fun other hmem => Or.inr ⟨hother other hmem, rfl⟩
      · next hsame =>
        rw [if_neg hsame]
        exact .cons (Or.inr ⟨fun heq => hsame (by simp [heq]), rfl⟩) (ih hnodup.2 hfind)

/-- Distinct keys in one order, with one value for each, make one list. -/
theorem ext_find? {other : List (κ × α)} (hkeys : entries.map Prod.fst = other.map Prod.fst)
    (hnodup : (entries.map Prod.fst).Nodup) (hfind : ∀ key, find? (· == ·) key entries = find? (· == ·) key other) :
    entries = other := by
  have hlength : entries.length = other.length := by simpa using congrArg List.length hkeys
  apply List.ext_getElem hlength
  intro i hi hother
  have hkey : entries[i].1 = other[i].1 := by
    have hsame := List.getElem_of_eq hkeys (by simpa using hi)
    simpa using hsame
  have hfirst : find? (· == ·) entries[i].1 entries = some entries[i].2 :=
    find?_of_mem hnodup (List.getElem_mem hi)
  have hsecond : find? (· == ·) other[i].1 other = some other[i].2 :=
    find?_of_mem (hkeys ▸ hnodup) (List.getElem_mem hother)
  rw [hfind, hkey, hsecond] at hfirst
  exact Prod.ext hkey (Option.some.inj hfirst.symm)

end LawfulKeys

end SassBridge.Assoc
