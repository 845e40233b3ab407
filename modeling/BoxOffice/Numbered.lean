/-!
# Rows numbered from one

A list whose rows have the numbers 1, 2, 3 and so on. New rows come last and none is taken out, so a
number that was given once stands for the same row for ever.
-/

namespace BoxOffice.Numbered

variable {α : Type}

/-- The row with a number. -/
def get? (n : Int) (rows : List α) : Option α :=
  if 1 ≤ n then rows[n.toNat - 1]? else none

/-- Puts another row in the place of the one with a number. -/
def set (n : Int) (x : α) (rows : List α) : List α :=
  if 1 ≤ n then rows.set (n.toNat - 1) x else rows

/-- The number that the next row gets. -/
def next (rows : List α) : Int := rows.length + 1

@[simp]
theorem length_set (n : Int) (x : α) (rows : List α) : (set n x rows).length = rows.length := by
  rw [set]
  split <;> simp

/-- After a replacement the number stands for the new row and every other number for its old one. -/
theorem get?_set (n m : Int) (x : α) (rows : List α) :
    get? m (set n x rows) = if m = n ∧ (get? n rows).isSome then some x else get? m rows := by
  rw [get?, get?, get?, set]
  by_cases hn : 1 ≤ n
  · by_cases hm : 1 ≤ m
    · rw [if_pos hn, if_pos hm, if_pos hn, if_pos hm, List.getElem?_set]
      by_cases h : m = n
      · subst h
        by_cases hlt : m.toNat - 1 < rows.length
        · simp [hlt]
        · simp [hlt]
      · have : n.toNat - 1 ≠ m.toNat - 1 := by omega
        simp [this, h]
    · have : m ≠ n := by omega
      simp [hm, this]
  · simp [hn]

/-- A row that is added has the next number, and no other number changes its row. -/
theorem get?_append (m : Int) (x : α) (rows : List α) :
    get? m (rows ++ [x]) = if m = next rows then some x else get? m rows := by
  by_cases h : m = next rows
  · rw [if_pos h, get?]
    rw [next] at h
    rw [if_pos (by omega), List.getElem?_append_right (by omega)]
    simp [show m.toNat - 1 - rows.length = 0 by omega]
  · rw [if_neg h, get?, get?]
    rw [next] at h
    split
    · by_cases hlt : m.toNat - 1 < rows.length
      · rw [List.getElem?_append_left hlt]
      · rw [List.getElem?_eq_none (by simp only [List.length_append, List.length_singleton]; omega),
          List.getElem?_eq_none (by omega)]
    · rfl

/-- Looking a row up and reading all rows in another way are the same in either order. -/
theorem get?_map {β : Type} (f : α → β) (n : Int) (rows : List α) :
    get? n (rows.map f) = (get? n rows).map f := by
  unfold get?
  split
  · rw [List.getElem?_map]
  · rfl

theorem map_set {β : Type} (f : α → β) (n : Int) (x : α) (rows : List α) :
    (set n x rows).map f = set n (f x) (rows.map f) := by
  unfold set
  split
  · rw [List.map_set]
  · rfl

/-- A row put in its own place changes nothing. -/
theorem set_get?_self {n : Int} {x : α} {rows : List α} (found : get? n rows = some x) :
    set n x rows = rows := by
  unfold set
  split
  · rename_i positive
    rw [get?, if_pos positive] at found
    obtain ⟨lt, rfl⟩ := List.getElem?_eq_some_iff.mp found
    exact List.set_getElem_self lt
  · rfl

theorem mem_of_get? {n : Int} {x : α} {rows : List α} (found : get? n rows = some x) : x ∈ rows := by
  unfold get? at found
  split at found
  · exact List.mem_of_getElem? found
  · cases found

/-- Every row has a number. -/
theorem exists_get?_of_mem {x : α} {rows : List α} (member : x ∈ rows) :
    ∃ n, get? n rows = some x := by
  obtain ⟨i, lt, rfl⟩ := List.getElem_of_mem member
  refine ⟨i + 1, ?_⟩
  rw [get?, if_pos (by omega), show ((i : Int) + 1).toNat - 1 = i by omega]
  exact List.getElem?_eq_getElem lt

/-- The next number has no row yet. -/
@[simp]
theorem get?_next (rows : List α) : get? (next rows) rows = none := by
  unfold get? next
  rw [if_pos (by omega)]
  exact List.getElem?_eq_none (by omega)

theorem next_map {β : Type} (f : α → β) (rows : List α) : next (rows.map f) = next rows := by
  simp [next]

end BoxOffice.Numbered
