/-
# Computations that can fail

A computation in several steps succeeds when each of its steps does. These facts take such a
computation apart, so that a proof about an operation that succeeded can name what each step gave.
-/

namespace MockSql

variable {ε α β : Type}

theorem bind_ok (value : α) (next : α → Except ε β) : (Except.ok value >>= next) = next value :=
  rfl

theorem bind_error (fault : ε) (next : α → Except ε β) :
    (Except.error fault >>= next) = .error fault :=
  rfl

/-- A sequence succeeds exactly when its first step gives a value with which the rest succeeds. -/
theorem bind_eq_ok_iff {first : Except ε α} {next : α → Except ε β} {result : β} :
    (first >>= next) = .ok result ↔ ∃ value, first = .ok value ∧ next value = .ok result := by
  cases first with
  | ok value => simp [bind_ok]
  | error fault => simp [bind_error]

/-- A value that is changed afterwards is there exactly when it was there before. -/
theorem map_eq_ok_iff {first : Except ε α} {change : α → β} {result : β} :
    first.map change = .ok result ↔ ∃ value, first = .ok value ∧ change value = result := by
  cases first <;> simp [Except.map]

variable {read : α → Except ε β} {items : List α} {results : List β}

theorem mapM_cons_eq_ok_iff {item : α} :
    (item :: items).mapM read = .ok results ↔
      ∃ first others, read item = .ok first ∧ items.mapM read = .ok others ∧
        results = first :: others := by
  rw [List.mapM_cons]
  constructor
  · intro h
    obtain ⟨first, hfirst, h⟩ := bind_eq_ok_iff.mp h
    obtain ⟨others, hothers, h⟩ := bind_eq_ok_iff.mp h
    cases h
    exact ⟨first, others, hfirst, hothers, rfl⟩
  · rintro ⟨first, others, hfirst, hothers, rfl⟩
    rw [hfirst, bind_ok, hothers]
    rfl

/-- What reading every item of a list gives was read from one of them. -/
theorem exists_of_mem_mapM {result : β} (h : items.mapM read = .ok results)
    (hmem : result ∈ results) : ∃ item ∈ items, read item = .ok result := by
  induction items generalizing results with
  | nil =>
      cases h
      cases hmem
  | cons item rest ih =>
      obtain ⟨first, others, hfirst, hothers, rfl⟩ := mapM_cons_eq_ok_iff.mp h
      rcases List.mem_cons.mp hmem with rfl | hmem
      · exact ⟨item, List.mem_cons_self, hfirst⟩
      · obtain ⟨other, hother, hread⟩ := ih hothers hmem
        exact ⟨other, List.mem_cons_of_mem _ hother, hread⟩

/-- Every item of a list that is read gives one of the results. -/
theorem exists_mem_of_mapM {item : α} (h : items.mapM read = .ok results) (hitem : item ∈ items) :
    ∃ result ∈ results, read item = .ok result := by
  induction items generalizing results with
  | nil => cases hitem
  | cons first rest ih =>
      obtain ⟨head, others, hhead, hothers, rfl⟩ := mapM_cons_eq_ok_iff.mp h
      rcases List.mem_cons.mp hitem with rfl | hitem
      · exact ⟨head, List.mem_cons_self, hhead⟩
      · obtain ⟨result, hresult, hread⟩ := ih hothers hitem
        exact ⟨result, List.mem_cons_of_mem _ hresult, hread⟩

theorem mapM_congr {other : α → Except ε β} (h : ∀ item ∈ items, read item = other item) :
    items.mapM read = items.mapM other := by
  induction items with
  | nil => rfl
  | cons item rest ih =>
      obtain ⟨hitem, hrest⟩ := List.forall_mem_cons.mp h
      rw [List.mapM_cons, List.mapM_cons, hitem, ih hrest]

/-- Results may be changed one by one or afterwards. -/
theorem mapM_map_result {γ : Type} (read : α → Except ε β) (change : β → γ) (items : List α) :
    (items.mapM fun item => (read item).map change) = (items.mapM read).map (List.map change) := by
  induction items with
  | nil => rfl
  | cons item rest ih =>
      rw [List.mapM_cons, List.mapM_cons, ih]
      cases read item with
      | error fault => rfl
      | ok result => cases rest.mapM read <;> rfl

/-- What every item of a list gives, the list gives. -/
theorem mapM_eq_ok_map {value : α → β} (h : ∀ item ∈ items, read item = .ok (value item)) :
    items.mapM read = .ok (items.map value) := by
  induction items with
  | nil => rfl
  | cons item rest ih =>
      obtain ⟨hitem, hrest⟩ := List.forall_mem_cons.mp h
      exact mapM_cons_eq_ok_iff.mpr ⟨value item, rest.map value, hitem, ih hrest, rfl⟩

/-- A list fails with the fault of one of its items. -/
theorem exists_of_mapM_eq_error {fault : ε} (h : items.mapM read = .error fault) :
    ∃ item ∈ items, read item = .error fault := by
  induction items with
  | nil => cases h
  | cons first rest ih =>
      rw [List.mapM_cons] at h
      cases hread : read first with
      | error other =>
          rw [hread, bind_error] at h
          cases h
          exact ⟨first, List.mem_cons_self, hread⟩
      | ok value =>
          cases hrest : rest.mapM read with
          | error other =>
              rw [hread, bind_ok, hrest, bind_error] at h
              cases h
              obtain ⟨item, hitem, hread⟩ := ih hrest
              exact ⟨item, List.mem_cons_of_mem _ hitem, hread⟩
          | ok values =>
              rw [hread, bind_ok, hrest] at h
              cases h

/-- A list with an item that fails has the fault of that item, if there is no other fault. -/
theorem mapM_eq_error {fault : ε} (only : ∀ item ∈ items, ∀ other, read item = .error other →
    other = fault) {item : α} (hitem : item ∈ items) (h : read item = .error fault) :
    items.mapM read = .error fault := by
  cases hread : items.mapM read with
  | ok results =>
      obtain ⟨result, -, hresult⟩ := exists_mem_of_mapM hread hitem
      rw [h] at hresult
      cases hresult
  | error other =>
      obtain ⟨failing, hfailing, hother⟩ := exists_of_mapM_eq_error hread
      rw [only failing hfailing other hother]

/-- An item behind others gives its result behind theirs. -/
theorem mapM_concat {item : α} {result : β} (h : items.mapM read = .ok results)
    (hitem : read item = .ok result) : (items ++ [item]).mapM read = .ok (results ++ [result]) := by
  rw [List.mapM_append, h, bind_ok, mapM_cons_eq_ok_iff.mpr ⟨result, [], hitem, rfl, rfl⟩, bind_ok]
  rfl

/-- What succeeds for every item of a list succeeds for those that are kept. -/
theorem exists_mapM_filter (h : items.mapM read = .ok results) (isKept : α → Bool) :
    ∃ kept, (items.filter isKept).mapM read = .ok kept := by
  induction items generalizing results with
  | nil => exact ⟨[], rfl⟩
  | cons item rest ih =>
      obtain ⟨first, others, hfirst, hothers, -⟩ := mapM_cons_eq_ok_iff.mp h
      obtain ⟨kept, hkept⟩ := ih hothers
      rw [List.filter_cons]
      split
      next => exact ⟨first :: kept, mapM_cons_eq_ok_iff.mpr ⟨first, kept, hfirst, hkept, rfl⟩⟩
      next => exact ⟨kept, hkept⟩

end MockSql
