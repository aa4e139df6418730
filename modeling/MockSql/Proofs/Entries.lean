/-
# Laws of ordered entries

What setting and erasing do to the names of entries, and what a name resolves to. The names of
databases and tables are kept pairwise different ignoring case; under that condition a spelling
resolves to at most one entry, and every operation that checks a name first keeps the condition.
-/

import MockSql.Entries

namespace MockSql

/-- The form in which names are compared. -/
def foldedName (name : String) : List Char :=
  Text.fold name.toList

/-- Names of which no two are the same ignoring case. -/
def DistinctNames (names : List String) : Prop :=
  (names.map foldedName).Nodup

instance (names : List String) : Decidable (DistinctNames names) :=
  inferInstanceAs (Decidable (names.map foldedName).Nodup)

theorem sameName_iff {a b : String} : sameName a b = true ↔ foldedName a = foldedName b := by
  simp [sameName, foldedName]

theorem DistinctNames.nodup {names : List String} (distinct : DistinctNames names) :
    names.Nodup :=
  List.Pairwise.of_map foldedName (fun _ _ hne heq => hne (congrArg foldedName heq)) distinct

/-- Leaving out names keeps the others different. -/
theorem DistinctNames.sublist {names fewer : List String} (distinct : DistinctNames names)
    (sub : fewer.Sublist names) : DistinctNames fewer :=
  List.Nodup.sublist (sub.map foldedName) distinct

/-- A further name may be added at the end if it differs from all names before it. -/
theorem DistinctNames.concat {names : List String} {name : String}
    (distinct : DistinctNames names)
    (fresh : ∀ other ∈ names, foldedName other ≠ foldedName name) :
    DistinctNames (names ++ [name]) := by
  rw [DistinctNames, List.map_append, List.nodup_append]
  refine ⟨distinct, by simp, ?_⟩
  intro folded hfolded other hother
  obtain ⟨stored, hstored, rfl⟩ := List.mem_map.mp hfolded
  simp only [List.map_cons, List.map_nil, List.mem_singleton] at hother
  subst hother
  exact fresh stored hstored

/-- Two of the names that are the same ignoring case are the same. -/
theorem DistinctNames.eq_of_folded {names : List String} (distinct : DistinctNames names)
    {a b : String} (ha : a ∈ names) (hb : b ∈ names) (heq : foldedName a = foldedName b) :
    a = b := by
  induction names with
  | nil => cases ha
  | cons name rest ih =>
      have hparts := List.nodup_cons.mp distinct
      rcases List.mem_cons.mp ha with rfl | ha' <;> rcases List.mem_cons.mp hb with rfl | hb'
      · rfl
      · exact absurd (List.mem_map.mpr ⟨b, hb', heq.symm⟩) hparts.1
      · exact absurd (List.mem_map.mpr ⟨a, ha', heq⟩) hparts.1
      · exact ih hparts.2 ha' hb'

namespace Entries

variable {α : Type}

/-! ## Setting and erasing -/

theorem mem_keys_of_mem {entries : Entries α} {entry : String × α} (hentry : entry ∈ entries) :
    entry.1 ∈ entries.keys :=
  List.mem_map.mpr ⟨entry, hentry, rfl⟩

/-- Setting an entry that exists keeps the names and their order. -/
theorem keys_set_of_mem {entries : Entries α} {name : String} (value : α)
    (hname : name ∈ entries.keys) : (entries.set name value).keys = entries.keys := by
  induction entries with
  | nil => cases hname
  | cons entry rest ih =>
      by_cases hentry : entry.1 = name
      · simp [Entries.set, keys, hentry]
      · have hrest : name ∈ Entries.keys rest := by
          rcases List.mem_cons.mp hname with heq | hrest
          · exact absurd heq.symm hentry
          · exact hrest
        have htail : (Entries.set rest name value).map Prod.fst = rest.map Prod.fst := ih hrest
        simp [Entries.set, keys, hentry, htail]

/-- Setting an entry that does not exist adds it at the end. -/
theorem set_of_not_mem {entries : Entries α} {name : String} (value : α)
    (hname : name ∉ entries.keys) : entries.set name value = entries ++ [(name, value)] := by
  induction entries with
  | nil => rfl
  | cons entry rest ih =>
      simp only [keys, List.map_cons, List.mem_cons, not_or] at hname
      simp [Entries.set, Ne.symm hname.1, ih hname.2]

/-- Setting an entry adds its name and loses none. -/
theorem mem_keys_set {entries : Entries α} {name key : String} (value : α)
    (hname : name = key ∨ name ∈ entries.keys) : name ∈ (entries.set key value).keys := by
  by_cases hkey : key ∈ entries.keys
  · rw [keys_set_of_mem value hkey]
    rcases hname with rfl | hname
    · exact hkey
    · exact hname
  · rw [set_of_not_mem value hkey, keys, List.map_append, List.mem_append]
    rcases hname with rfl | hname
    · exact .inr (List.mem_singleton.mpr rfl)
    · exact .inl hname

theorem mem_keys_setAll {entries changes : Entries α} {name : String}
    (hname : name ∈ entries.keys ∨ name ∈ changes.keys) : name ∈ (entries.setAll changes).keys := by
  induction changes generalizing entries with
  | nil => exact hname.resolve_right (List.not_mem_nil)
  | cons change rest ih =>
      apply @ih (entries.set change.1 change.2)
      rcases hname with hname | hname
      · exact .inl (mem_keys_set change.2 (.inr hname))
      · rcases List.mem_cons.mp hname with rfl | hname
        · exact .inl (mem_keys_set change.2 (.inl rfl))
        · exact .inr hname

/-- Setting entries of different new names adds them at the end in their order. -/
theorem setAll_of_distinct (entries : Entries α) {changes : Entries α}
    (distinct : (entries.keys ++ changes.keys).Nodup) :
    entries.setAll changes = entries ++ changes := by
  induction changes generalizing entries with
  | nil => exact (List.append_nil entries).symm
  | cons change rest ih =>
      obtain ⟨name, value⟩ := change
      have hnew : name ∉ entries.keys := by
        intro hmem
        exact (List.nodup_append.mp distinct).2.2 name hmem name List.mem_cons_self rfl
      have hrest : (Entries.keys (entries ++ [(name, value)]) ++ Entries.keys rest).Nodup := by
        simpa [keys] using distinct
      have hset : entries.setAll ((name, value) :: rest) =
          (entries.set name value).setAll rest := rfl
      rw [hset, set_of_not_mem value hnew, ih _ hrest, List.append_assoc]
      rfl

/-- After setting an entry there is nothing new but that entry. -/
theorem mem_of_mem_set {entries : Entries α} {name : String} {value : α} {entry : String × α}
    (hentry : entry ∈ entries.set name value) : entry = (name, value) ∨ entry ∈ entries := by
  induction entries with
  | nil => exact .inl (List.mem_singleton.mp hentry)
  | cons first rest ih =>
      by_cases hfirst : first.1 = name
      · rcases List.mem_cons.mp (by simpa [Entries.set, hfirst] using hentry) with heq | hrest
        · exact .inl heq
        · exact .inr (List.mem_cons_of_mem _ hrest)
      · rcases List.mem_cons.mp (by simpa [Entries.set, hfirst] using hentry) with heq | hrest
        · exact .inr (heq ▸ List.mem_cons_self)
        · exact (ih hrest).imp_right (List.mem_cons_of_mem _)

theorem mem_of_mem_setAll {entries changes : Entries α} {entry : String × α}
    (hentry : entry ∈ entries.setAll changes) : entry ∈ changes ∨ entry ∈ entries := by
  induction changes generalizing entries with
  | nil => exact .inr hentry
  | cons change rest ih =>
      rcases @ih (entries.set change.1 change.2) hentry with hrest | hset
      · exact .inl (List.mem_cons_of_mem _ hrest)
      · rcases mem_of_mem_set hset with rfl | hstored
        · exact .inl List.mem_cons_self
        · exact .inr hstored

theorem keys_erase (entries : Entries α) (name : String) :
    (entries.erase name).keys = entries.keys.filter (· != name) := by
  rw [erase, keys, keys, List.filter_map]
  rfl

theorem mem_of_mem_erase {entries : Entries α} {name : String} {entry : String × α}
    (hentry : entry ∈ Entries.erase entries name) : entry ∈ entries :=
  (List.mem_filter.mp hentry).1

theorem get?_cons_self (rest : Entries α) (name : String) (value : α) :
    Entries.get? ((name, value) :: rest) name = some value := by
  simp [get?]

theorem get?_cons_of_ne (rest : Entries α) {name key : String} (value : α) (hne : name ≠ key) :
    Entries.get? ((key, value) :: rest) name = Entries.get? rest name := by
  have hbeq : (name == key) = false := by simp [hne]
  simp [get?, List.lookup_cons, hbeq]

theorem get?_eq_none {entries : Entries α} {name : String} (hname : name ∉ entries.keys) :
    entries.get? name = none := by
  induction entries with
  | nil => rfl
  | cons entry rest ih =>
      obtain ⟨key, value⟩ := entry
      have hparts : name ≠ key ∧ name ∉ Entries.keys rest := by simpa [keys] using hname
      rw [get?_cons_of_ne rest value hparts.1]
      exact ih hparts.2

theorem get?_set_self (entries : Entries α) (name : String) (value : α) :
    (entries.set name value).get? name = some value := by
  induction entries with
  | nil => exact get?_cons_self [] name value
  | cons entry rest ih =>
      by_cases hentry : entry.1 = name
      · simp [Entries.set, hentry, get?_cons_self]
      · obtain ⟨key, stored⟩ := entry
        simp [Entries.set, hentry, get?_cons_of_ne _ stored (Ne.symm hentry), ih]

/-- Setting the value that an entry has already changes nothing. -/
theorem set_get?_self {entries : Entries α} {name : String} {value : α}
    (hget : entries.get? name = some value) : entries.set name value = entries := by
  induction entries with
  | nil => cases hget
  | cons entry rest ih =>
      obtain ⟨key, stored⟩ := entry
      by_cases hkey : key = name
      · subst hkey
        rw [get?_cons_self] at hget
        simp [Entries.set, Option.some.inj hget]
      · rw [get?_cons_of_ne rest stored (Ne.symm hkey)] at hget
        simp [Entries.set, hkey, ih hget]

/-- Setting an entry leaves the values of the others. -/
theorem get?_set_of_ne (entries : Entries α) {name key : String} (value : α) (hne : name ≠ key) :
    (entries.set key value).get? name = entries.get? name := by
  induction entries with
  | nil => exact get?_cons_of_ne [] value hne
  | cons entry rest ih =>
      obtain ⟨stored, current⟩ := entry
      by_cases hentry : stored = key
      · subst hentry
        simp [Entries.set, get?_cons_of_ne _ _ hne]
      · by_cases hname : name = stored
        · subst hname
          simp [Entries.set, hentry, get?_cons_self]
        · simp [Entries.set, hentry, get?_cons_of_ne _ _ hname, ih]

/-- Erasing an entry leaves the values of the others. -/
theorem get?_erase_of_ne (entries : Entries α) {name key : String} (hne : name ≠ key) :
    (entries.erase key).get? name = entries.get? name := by
  induction entries with
  | nil => rfl
  | cons entry rest ih =>
      obtain ⟨stored, value⟩ := entry
      by_cases hstored : stored = key
      · subst hstored
        rw [get?_cons_of_ne rest value hne, ← ih]
        simp [erase]
      · have herase : Entries.erase ((stored, value) :: rest) key =
            (stored, value) :: Entries.erase rest key := by
          simp [erase, hstored]
        rw [herase]
        by_cases hname : name = stored
        · subst hname
          rw [get?_cons_self, get?_cons_self]
        · rw [get?_cons_of_ne _ _ hname, get?_cons_of_ne _ _ hname, ih]

theorem get?_setAll_of_not_mem (entries : Entries α) {changes : Entries α} {name : String}
    (hname : name ∉ changes.keys) : (entries.setAll changes).get? name = entries.get? name := by
  induction changes generalizing entries with
  | nil => rfl
  | cons change rest ih =>
      simp only [keys, List.map_cons, List.mem_cons, not_or] at hname
      exact (ih _ hname.2).trans (get?_set_of_ne _ _ hname.1)

/-- Of two values set under one name the later stays. -/
theorem set_set (entries : Entries α) (name : String) (earlier later : α) :
    (entries.set name earlier).set name later = entries.set name later := by
  induction entries with
  | nil => simp [Entries.set]
  | cons entry rest ih =>
      by_cases hentry : entry.1 = name
      · simp [Entries.set, hentry]
      · simp [Entries.set, hentry, ih]

/-- Entries of different names may be set in either order, if one of them exists. -/
theorem set_comm {entries : Entries α} {name other : String} (value changed : α)
    (hne : name ≠ other) (hname : name ∈ entries.keys) :
    (entries.set name value).set other changed = (entries.set other changed).set name value := by
  induction entries with
  | nil => cases hname
  | cons entry rest ih =>
      obtain ⟨stored, current⟩ := entry
      by_cases hstored : stored = name
      · subst hstored
        simp [Entries.set, hne]
      · by_cases hother : stored = other
        · subst hother
          simp [Entries.set, hstored]
        · have hrest : name ∈ Entries.keys rest :=
            (List.mem_cons.mp hname).resolve_left fun heq => hstored heq.symm
          simp [Entries.set, hstored, hother, ih hrest]

/-- An entry that has a value stands somewhere among the others, and none before it has its name. -/
theorem exists_split {entries : Entries α} {name : String} {value : α}
    (hget : entries.get? name = some value) :
    ∃ front back, entries = front ++ (name, value) :: back ∧ name ∉ Entries.keys front := by
  obtain ⟨front, back, hsplit, hfront⟩ := List.lookup_eq_some_iff.mp hget
  refine ⟨front, back, hsplit, ?_⟩
  intro hname
  obtain ⟨entry, hentry, hequal⟩ := List.mem_map.mp hname
  simpa [hequal] using hfront entry hentry

/-- An entry is set where it stands. -/
theorem set_split {front : Entries α} {name : String} (hfront : name ∉ front.keys)
    (value changed : α) (back : Entries α) :
    Entries.set (front ++ (name, value) :: back) name changed =
      front ++ (name, changed) :: back := by
  induction front with
  | nil => simp [Entries.set]
  | cons entry rest ih =>
      simp only [keys, List.map_cons, List.mem_cons, not_or] at hfront
      simp [Entries.set, Ne.symm hfront.1, ih hfront.2]

/-- An entry whose name no other has is erased alone. -/
theorem erase_split {front back : Entries α} {name : String} {value : α}
    (unique : (Entries.keys (front ++ (name, value) :: back)).Nodup) :
    Entries.erase (front ++ (name, value) :: back) name = front ++ back := by
  rw [keys, List.map_append, List.map_cons, List.nodup_append, List.nodup_cons] at unique
  obtain ⟨-, ⟨hback, -⟩, hfront⟩ := unique
  have hkept : (front ++ back).filter (·.1 != name) = front ++ back := by
    rw [List.filter_eq_self]
    intro entry hentry
    have hne : entry.1 ≠ name := by
      rcases List.mem_append.mp hentry with hentry | hentry
      · exact hfront _ (List.mem_map_of_mem hentry) _ List.mem_cons_self
      · exact fun hequal => hback (List.mem_map.mpr ⟨entry, hentry, hequal⟩)
    simpa using hne
  rw [erase, List.filter_append, List.filter_cons_of_neg (by simp), ← List.filter_append, hkept]

/-- Setting an entry keeps the names different. -/
theorem nodup_set {entries : Entries α} (name : String) (value : α)
    (unique : entries.keys.Nodup) : (entries.set name value).keys.Nodup := by
  by_cases hname : name ∈ entries.keys
  · rw [keys_set_of_mem value hname]
    exact unique
  · have hkeys : (entries.set name value).keys = entries.keys ++ [name] := by
      simp [set_of_not_mem value hname, keys]
    rw [hkeys, List.nodup_append]
    refine ⟨unique, List.pairwise_singleton _ _, ?_⟩
    intro stored hstored other hother
    rw [List.mem_singleton.mp hother]
    exact fun hequal => hname (hequal ▸ hstored)

theorem nodup_erase {entries : Entries α} (name : String) (unique : entries.keys.Nodup) :
    (entries.erase name).keys.Nodup := by
  rw [keys_erase]
  exact unique.filter _

/-- Setting several entries keeps the names different. -/
theorem nodup_setAll {entries changes : Entries α} (unique : entries.keys.Nodup) :
    (entries.setAll changes).keys.Nodup := by
  induction changes generalizing entries with
  | nil => exact unique
  | cons change rest ih => exact @ih (entries.set change.1 change.2) (nodup_set _ _ unique)

/-- What is found after several entries were set is found among them or was there before. -/
theorem get?_setAll (entries : Entries α) {changes : Entries α} (unique : changes.keys.Nodup)
    (name : String) :
    (entries.setAll changes).get? name = (changes.get? name).or (entries.get? name) := by
  induction changes generalizing entries with
  | nil => rfl
  | cons change rest ih =>
      obtain ⟨key, value⟩ := change
      obtain ⟨hkey, hrest⟩ := List.nodup_cons.mp unique
      have hset : entries.setAll ((key, value) :: rest) = (entries.set key value).setAll rest := rfl
      rw [hset]
      by_cases hname : name = key
      · subst hname
        rw [get?_setAll_of_not_mem _ hkey, get?_set_self, get?_cons_self, Option.some_or]
      · rw [ih _ hrest, get?_set_of_ne _ _ hname, get?_cons_of_ne _ _ hname]

/-- The entries that are there keep their places, and the new ones come behind them in their order. -/
theorem keys_setAll (entries : Entries α) {changes : Entries α} (unique : changes.keys.Nodup) :
    (entries.setAll changes).keys =
      entries.keys ++ changes.keys.filter (· ∉ entries.keys) := by
  induction changes generalizing entries with
  | nil => exact (List.append_nil _).symm
  | cons change rest ih =>
      obtain ⟨key, value⟩ := change
      obtain ⟨hkey, hrest⟩ := List.nodup_cons.mp unique
      have hset : entries.setAll ((key, value) :: rest) = (entries.set key value).setAll rest := rfl
      have hkeys : Entries.keys ((key, value) :: rest) = key :: Entries.keys rest := rfl
      rw [hset, ih _ hrest, hkeys]
      by_cases hmem : key ∈ entries.keys
      · rw [keys_set_of_mem value hmem, List.filter_cons_of_neg (by simpa using hmem)]
      · have hlater : (Entries.keys rest).filter (· ∉ entries.keys ++ [key]) =
            (Entries.keys rest).filter (· ∉ entries.keys) := by
          refine List.filter_congr fun name hname => ?_
          have hne : name ≠ key := fun heq => hkey (heq ▸ hname)
          simp [hne]
        have hadded : (entries.set key value).keys = entries.keys ++ [key] := by
          simp [set_of_not_mem value hmem, keys]
        rw [hadded, hlater, List.filter_cons_of_pos (by simpa using hmem), List.append_assoc,
          List.singleton_append]

/-- Where no two names are one, every entry is found by its name. -/
theorem get?_of_mem {entries : Entries α} (unique : entries.keys.Nodup) {entry : String × α}
    (hentry : entry ∈ entries) : entries.get? entry.1 = some entry.2 := by
  induction entries with
  | nil => cases hentry
  | cons first rest ih =>
      obtain ⟨hfirst, hrest⟩ := List.nodup_cons.mp unique
      rcases List.mem_cons.mp hentry with rfl | hlater
      · exact get?_cons_self rest entry.1 entry.2
      · have hne : entry.1 ≠ first.1 := fun heq => hfirst (heq ▸ mem_keys_of_mem hlater)
        rw [← ih hrest hlater]
        exact get?_cons_of_ne rest first.2 hne

/-- Setting entries that are set already changes nothing. -/
theorem setAll_eq_self {entries changes : Entries α}
    (already : ∀ change ∈ changes, entries.get? change.1 = some change.2) :
    entries.setAll changes = entries := by
  induction changes with
  | nil => rfl
  | cons change rest ih =>
      obtain ⟨hchange, hrest⟩ := List.forall_mem_cons.mp already
      have hset : entries.setAll (change :: rest) =
          (entries.set change.1 change.2).setAll rest := rfl
      rw [hset, set_get?_self hchange, ih hrest]

/-- Setting the same entries again changes nothing. -/
theorem setAll_setAll (entries : Entries α) {changes : Entries α} (unique : changes.keys.Nodup) :
    (entries.setAll changes).setAll changes = entries.setAll changes := by
  refine setAll_eq_self fun change hchange => ?_
  rw [get?_setAll entries unique, get?_of_mem unique hchange, Option.some_or]

/-! ## Resolving names -/

/-- A name that is stored resolves to itself or to the first spelling that folds to the same. -/
theorem resolve?_eq_some {entries : Entries α} {name key : String}
    (hresolve : entries.resolve? name = some key) :
    key ∈ entries.keys ∧ foldedName key = foldedName name := by
  unfold resolve? at hresolve
  split at hresolve
  next hexact =>
    cases hresolve
    exact ⟨List.contains_iff_mem.mp hexact, rfl⟩
  next =>
    have hsame := List.find?_some hresolve
    exact ⟨List.mem_of_find?_eq_some hresolve, sameName_iff.mp hsame⟩

/-- What a name resolves to stands somewhere among the entries. -/
theorem exists_split_of_resolve? {entries : Entries α} {name key : String}
    (hresolve : entries.resolve? name = some key) :
    ∃ front value back, entries = front ++ (key, value) :: back := by
  obtain ⟨⟨stored, value⟩, hentry, rfl⟩ := List.mem_map.mp (resolve?_eq_some hresolve).1
  obtain ⟨front, back, hsplit⟩ := List.append_of_mem hentry
  exact ⟨front, value, back, hsplit⟩

/-- A name that is stored resolves to itself. -/
theorem resolve?_of_mem {entries : Entries α} {name : String} (hname : name ∈ entries.keys) :
    entries.resolve? name = some name :=
  if_pos (List.contains_iff_mem.mpr hname)

/-- A name resolves to nothing only if every stored name differs from it ignoring case. -/
theorem resolve?_eq_none_iff {entries : Entries α} {name : String} :
    entries.resolve? name = none ↔ ∀ key ∈ entries.keys, foldedName key ≠ foldedName name := by
  unfold resolve?
  split
  next hexact =>
    simp only [reduceCtorEq, false_iff]
    intro hall
    exact hall name (List.contains_iff_mem.mp hexact) rfl
  next =>
    simp [List.find?_eq_none, sameName_iff]

/-- A name that resolves to nothing is not stored. -/
theorem not_mem_of_free {entries : Entries α} {name : String}
    (free : entries.resolve? name = none) : name ∉ entries.keys :=
  fun hname => resolve?_eq_none_iff.mp free name hname rfl

/-- An entry that is found is one of the entries. -/
theorem find?_eq_some {entries : Entries α} {name key : String} {value : α}
    (hfind : entries.find? name = some (key, value)) :
    entries.resolve? name = some key ∧ entries.get? key = some value := by
  obtain ⟨resolved, hresolve, hget⟩ := Option.bind_eq_some_iff.mp hfind
  obtain ⟨stored, hstored, heq⟩ := Option.map_eq_some_iff.mp hget
  cases heq
  exact ⟨hresolve, hstored⟩

theorem mem_of_get? {entries : Entries α} {name : String} {value : α}
    (hget : entries.get? name = some value) : (name, value) ∈ entries := by
  induction entries with
  | nil => cases hget
  | cons entry rest ih =>
      obtain ⟨key, stored⟩ := entry
      by_cases hkey : name = key
      · subst hkey
        rw [get?_cons_self] at hget
        exact Option.some.inj hget ▸ List.mem_cons_self
      · rw [get?_cons_of_ne rest stored hkey] at hget
        exact List.mem_cons_of_mem _ (ih hget)

/-- The name of an entry that resolves leads to its entry. -/
theorem exists_find? {entries : Entries α} {name key : String}
    (hresolve : entries.resolve? name = some key) :
    ∃ value, entries.find? name = some (key, value) := by
  obtain ⟨entry, hentry, rfl⟩ := List.mem_map.mp (resolve?_eq_some hresolve).1
  cases hget : entries.get? entry.1 with
  | none => simpa using List.lookup_eq_none_iff.mp hget entry hentry
  | some value => exact ⟨value, by rw [find?, hresolve, Option.bind_some, hget, Option.map_some]⟩

theorem mem_of_find? {entries : Entries α} {name key : String} {value : α}
    (hfind : entries.find? name = some (key, value)) : (key, value) ∈ entries :=
  mem_of_get? (find?_eq_some hfind).2

/-- A name that resolves to nothing is not that of an entry. -/
theorem ne_of_free {entries : Entries α} {name key : String} {value : α}
    (free : entries.resolve? name = none) (hget : entries.get? key = some value) : key ≠ name := by
  rintro rfl
  exact not_mem_of_free free (mem_keys_of_mem (mem_of_get? hget))

section All

variable {holds : α → Prop} {entries : Entries α} {name : String} {value : α}

/-- Where a property holds of all entries, it does after one is set exactly if it holds of that. -/
theorem forall_set_iff (all : ∀ entry ∈ entries, holds entry.2) :
    (∀ entry ∈ entries.set name value, holds entry.2) ↔ holds value := by
  constructor
  · intro hset
    exact hset _ (mem_of_get? (get?_set_self entries name value))
  · intro hvalue entry hentry
    rcases mem_of_mem_set hentry with rfl | hstored
    · exact hvalue
    · exact all entry hstored

theorem forall_erase (all : ∀ entry ∈ entries, holds entry.2) :
    ∀ entry ∈ entries.erase name, holds entry.2 :=
  fun entry hentry => all entry (mem_of_mem_erase hentry)

end All

/-- The only entry is found in every spelling of its name. -/
theorem find?_singleton {name other : String} (same : sameName name other = true) (value : α) :
    find? [(name, value)] other = some (name, value) := by
  by_cases hname : other = name
  · subst hname
    simp [find?, resolve?, keys, get?]
  · simp [find?, resolve?, keys, get?, hname, same]

/-- A change of the value of an entry that was found keeps the names. -/
theorem keys_set_of_find? {entries : Entries α} {name key : String} {value : α} (changed : α)
    (hfind : entries.find? name = some (key, value)) :
    (entries.set key changed).keys = entries.keys :=
  keys_set_of_mem changed (mem_keys_of_mem (mem_of_find? hfind))

/-- An entry that was found is found again with its new value. -/
theorem find?_set {entries : Entries α} {name key : String} {value : α} (changed : α)
    (hfind : entries.find? name = some (key, value)) :
    (entries.set key changed).find? name = some (key, changed) := by
  have hresolve := (find?_eq_some hfind).1
  rw [resolve?, ← keys_set_of_find? changed hfind] at hresolve
  rw [find?, resolve?, hresolve, Option.bind_some, get?_set_self, Option.map_some]

/-- Setting another entry that exists does not hide one that is found. -/
theorem find?_set_of_ne {entries : Entries α} {name key other : String} {value : α} (changed : α)
    (hne : key ≠ other) (hother : other ∈ entries.keys)
    (hfind : entries.find? name = some (key, value)) :
    (entries.set other changed).find? name = some (key, value) := by
  obtain ⟨hresolve, hget⟩ := find?_eq_some hfind
  rw [resolve?, ← keys_set_of_mem changed hother] at hresolve
  rw [find?, resolve?, hresolve, Option.bind_some, get?_set_of_ne _ _ hne, hget, Option.map_some]

/-- An entry that is added and erased again leaves the entries as they were. -/
theorem erase_set_of_not_mem {entries : Entries α} {name : String} (value : α)
    (hname : name ∉ entries.keys) : (entries.set name value).erase name = entries := by
  have hkept : entries.filter (·.1 != name) = entries := by
    rw [List.filter_eq_self]
    intro entry hentry
    have hne : entry.1 ≠ name := fun heq => hname (heq ▸ mem_keys_of_mem hentry)
    simpa using hne
  rw [set_of_not_mem value hname, erase, List.filter_append, hkept, List.filter_cons_of_neg (by simp),
    List.filter_nil, List.append_nil]

/-- An entry that is added under a free name is found in every spelling of the name. -/
theorem resolve?_set_of_free {entries : Entries α} {name other : String} (value : α)
    (free : entries.resolve? name = none) (same : sameName name other = true) :
    (entries.set name value).resolve? other = some name := by
  have hkeys : (entries.set name value).keys = entries.keys ++ [name] := by
    simp [set_of_not_mem value (not_mem_of_free free), keys]
  cases hresolve : (entries.set name value).resolve? other with
  | none =>
      have hmem : name ∈ (entries.set name value).keys := by simp [hkeys]
      exact absurd (sameName_iff.mp same) (resolve?_eq_none_iff.mp hresolve name hmem)
  | some key =>
      obtain ⟨hkey, hfolded⟩ := resolve?_eq_some hresolve
      rw [hkeys, List.mem_append, List.mem_singleton] at hkey
      rcases hkey with hkey | rfl
      · exact absurd (hfolded.trans (sameName_iff.mp same).symm)
          (resolve?_eq_none_iff.mp free key hkey)
      · rfl

/-- A name that resolves to nothing still does when an entry of a different name is added. -/
theorem resolve?_set_of_not_same {entries : Entries α} {name other : String} (value : α)
    (free : entries.resolve? other = none) (differ : ¬ sameName name other = true) :
    (entries.set name value).resolve? other = none := by
  rw [resolve?_eq_none_iff] at free ⊢
  intro key hkey
  obtain ⟨entry, hentry, rfl⟩ := List.mem_map.mp hkey
  rcases mem_of_mem_set hentry with rfl | hstored
  · exact fun hfolded => differ (sameName_iff.mpr hfolded)
  · exact free entry.1 (mem_keys_of_mem hstored)

/-- An entry that is erased is found in no spelling of its name. -/
theorem resolve?_erase_of_same {entries : Entries α} {name other : String}
    (distinct : DistinctNames entries.keys) (hname : name ∈ entries.keys)
    (same : sameName name other = true) : (entries.erase name).resolve? other = none := by
  rw [resolve?_eq_none_iff, keys_erase]
  intro key hkey hfolded
  obtain ⟨hstored, hne⟩ := List.mem_filter.mp hkey
  have heq : key = name :=
    distinct.eq_of_folded hstored hname (hfolded.trans (sameName_iff.mp same).symm)
  simp [heq] at hne

/-- A name that resolves to nothing may be added. -/
theorem distinct_set_of_free {entries : Entries α} {name : String} (value : α)
    (distinct : DistinctNames entries.keys) (free : entries.resolve? name = none) :
    DistinctNames (entries.set name value).keys := by
  have hkeys : (entries.set name value).keys = entries.keys ++ [name] := by
    simp [set_of_not_mem value (not_mem_of_free free), keys]
  rw [hkeys]
  exact distinct.concat (resolve?_eq_none_iff.mp free)

theorem distinct_erase {entries : Entries α} (name : String)
    (distinct : DistinctNames entries.keys) : DistinctNames (entries.erase name).keys := by
  rw [keys_erase]
  exact distinct.sublist List.filter_sublist

end Entries

end MockSql
