/-!
# Rows by key

A list of pairs in which each key stands for one row. A new row comes last and a row that is replaced
keeps its place, so the order is that of first insertion. `get?` is the view of such a list: what each
operation does is said by what `get?` answers after it.
-/

namespace BoxOffice.Keyed

variable {κ ν : Type} [DecidableEq κ]

/-- The row with a key. -/
def get? (k : κ) : List (κ × ν) → Option ν
  | [] => none
  | (k', v) :: rest => if k' = k then some v else get? k rest

/-- Puts a row under a key, in place of the one that is there. -/
def put (k : κ) (v : ν) : List (κ × ν) → List (κ × ν)
  | [] => [(k, v)]
  | (k', v') :: rest => if k' = k then (k', v) :: rest else (k', v') :: put k v rest

/-- Takes the row with a key away. -/
def erase (k : κ) : List (κ × ν) → List (κ × ν)
  | [] => []
  | (k', v) :: rest => if k' = k then erase k rest else (k', v) :: erase k rest

@[simp]
theorem get?_nil (k : κ) : get? k ([] : List (κ × ν)) = none := rfl

@[simp]
theorem get?_put_self (k : κ) (v : ν) (rows : List (κ × ν)) : get? k (put k v rows) = some v := by
  induction rows with
  | nil => simp [put, get?]
  | cons row rest ih =>
    obtain ⟨k', v'⟩ := row
    by_cases h : k' = k <;> simp [put, get?, h, ih]

theorem get?_put_of_ne {k k' : κ} (h : k' ≠ k) (v : ν) (rows : List (κ × ν)) :
    get? k' (put k v rows) = get? k' rows := by
  induction rows with
  | nil => simp [put, get?, Ne.symm h]
  | cons row rest ih =>
    obtain ⟨l, w⟩ := row
    rw [put]
    split
    · next hl => simp [get?, hl, Ne.symm h]
    · simp [get?, ih]

theorem get?_put (k k' : κ) (v : ν) (rows : List (κ × ν)) :
    get? k' (put k v rows) = if k' = k then some v else get? k' rows := by
  split
  · next h => rw [h, get?_put_self]
  · next h => exact get?_put_of_ne h v rows

/-- Putting the row that is there changes nothing. -/
theorem put_of_get? {k : κ} {v : ν} {rows : List (κ × ν)} (found : get? k rows = some v) :
    put k v rows = rows := by
  induction rows with
  | nil => cases found
  | cons row rest ih =>
    obtain ⟨l, w⟩ := row
    rw [get?] at found
    rw [put]
    split at found
    · next same =>
      cases found
      rw [if_pos same]
    · next other => rw [if_neg other, ih found]

theorem get?_erase (k k' : κ) (rows : List (κ × ν)) :
    get? k' (erase k rows) = if k' = k then none else get? k' rows := by
  induction rows with
  | nil => simp [erase]
  | cons row rest ih =>
    obtain ⟨l, w⟩ := row
    rw [erase]
    split
    · next hl =>
      rw [ih, get?]
      split
      · rfl
      · next hk => rw [if_neg fun h => hk (h.symm.trans hl)]
    · next hl =>
      rw [get?, ih, get?]
      split
      · next hk => rw [if_neg fun h => hl (hk.trans h)]
      · rfl

/-- A row that is added at the end stands for its key when no row did before. -/
theorem get?_append (k k' : κ) (v : ν) (rows : List (κ × ν)) :
    get? k' (rows ++ [(k, v)]) =
      match get? k' rows with
      | some w => some w
      | none => if k = k' then some v else none := by
  induction rows with
  | nil => rfl
  | cons row rest ih =>
    obtain ⟨l, w⟩ := row
    rw [List.cons_append, get?, get?]
    split
    · rfl
    · exact ih

theorem mem_keys_of_get? {k : κ} {v : ν} {rows : List (κ × ν)} (found : get? k rows = some v) :
    k ∈ rows.map (·.1) := by
  induction rows with
  | nil => cases found
  | cons row rest ih =>
    obtain ⟨k', v'⟩ := row
    rw [get?] at found
    split at found
    · next same => simp [same]
    · exact List.mem_cons_of_mem _ (ih found)

theorem mem_of_get? {k : κ} {v : ν} {rows : List (κ × ν)} (found : get? k rows = some v) :
    (k, v) ∈ rows := by
  induction rows with
  | nil => cases found
  | cons row rest ih =>
    obtain ⟨k', v'⟩ := row
    rw [get?] at found
    split at found
    · next same =>
      cases found
      simp [same]
    · exact List.mem_cons_of_mem _ (ih found)

/-- A row that is listed has a key that stands for some row. -/
theorem isSome_get?_of_mem {k : κ} {v : ν} {rows : List (κ × ν)} (member : (k, v) ∈ rows) :
    (get? k rows).isSome := by
  induction rows with
  | nil => cases member
  | cons row rest ih =>
    obtain ⟨k', v'⟩ := row
    rw [get?]
    split
    · rfl
    · next other =>
      rcases List.mem_cons.mp member with same | later
      · cases same
        exact absurd rfl other
      · exact ih later

theorem mem_of_mem_put {k : κ} {v : ν} {rows : List (κ × ν)} {row : κ × ν}
    (member : row ∈ put k v rows) : row = (k, v) ∨ row ∈ rows := by
  induction rows with
  | nil => exact .inl (List.mem_singleton.mp member)
  | cons first rest ih =>
    obtain ⟨k', v'⟩ := first
    rw [put] at member
    split at member
    · next same =>
      rcases List.mem_cons.mp member with here | later
      · exact .inl (same ▸ here)
      · exact .inr (List.mem_cons_of_mem _ later)
    · rcases List.mem_cons.mp member with here | later
      · exact .inr (here ▸ List.mem_cons_self)
      · exact (ih later).imp_right (List.mem_cons_of_mem _)

theorem mem_of_mem_erase {k : κ} {rows : List (κ × ν)} {row : κ × ν} (member : row ∈ erase k rows) :
    row ∈ rows := by
  induction rows with
  | nil => cases member
  | cons first rest ih =>
    obtain ⟨k', v'⟩ := first
    rw [erase] at member
    split at member
    · exact List.mem_cons_of_mem _ (ih member)
    · rcases List.mem_cons.mp member with here | later
      · exact here ▸ List.mem_cons_self
      · exact List.mem_cons_of_mem _ (ih later)

end BoxOffice.Keyed
