import BoxOffice.Numbered

/-!
# The places of some of the rows

Rows are numbered in the order in which they come. When some of them are left
out, those that are kept move up: `place` is the number that a row has then. It
depends on which rows are kept, and the marks that say so may run ahead of the
rows, so that a place is known before its row is there. Numbers beyond the marks
keep their distance and come after all places.
-/

namespace BoxOffice.Numbered

variable {α : Type}

/-- The number that a row has when only the marked rows are kept. -/
def place (marks : List Bool) (n : Int) : Int :=
  if 1 ≤ n then ((marks.take n.toNat).count true + (n.toNat - marks.length) : Nat) else n

/-- Whether the row with a number is not left out. -/
def isKept (marks : List Bool) (n : Int) : Bool := get? n marks != some false

section Places

variable {marks : List Bool} {p : α → Bool} {rows : List α} {n m : Int} {x old : α}

theorem get?_of_isPrefix {xs ys : List α} (ahead : xs <+: ys) (found : get? n xs = some x) :
    get? n ys = some x := by
  unfold get? at found ⊢
  split at found
  · rename_i positive
    obtain ⟨more, rfl⟩ := ahead
    obtain ⟨bound, -⟩ := List.getElem?_eq_some_iff.mp found
    rw [if_pos positive, List.getElem?_append_left bound, found]
  · cases found

/-- The rows before a number, its row, and those after it. -/
theorem split_of_get? (found : get? n rows = some x) :
    ∃ i : Nat, n = i + 1 ∧ i < rows.length ∧ rows = rows.take i ++ x :: rows.drop (i + 1) := by
  unfold get? at found
  split at found
  · obtain ⟨bound, rfl⟩ := List.getElem?_eq_some_iff.mp found
    refine ⟨n.toNat - 1, by omega, bound, ?_⟩
    rw [List.getElem_cons_drop, List.take_append_drop]
  · cases found

theorem get?_succ (i : Nat) (rows : List α) : get? ((i : Int) + 1) rows = rows[i]? := by
  rw [get?, if_pos (by omega), show ((i : Int) + 1).toNat - 1 = i by omega]

theorem set_succ (i : Nat) (x : α) (rows : List α) : set ((i : Int) + 1) x rows = rows.set i x := by
  rw [set, if_pos (by omega), show ((i : Int) + 1).toNat - 1 = i by omega]

theorem place_succ (marks : List Bool) (i : Nat) :
    place marks ((i : Int) + 1) = ((marks.take (i + 1)).count true + (i + 1 - marks.length) : Nat) := by
  rw [place, if_pos (by omega), show ((i : Int) + 1).toNat = i + 1 by omega]

/-- The mark of a row that is there is what is said of the row. -/
theorem mark_eq (ahead : rows.map p <+: marks) (found : get? n rows = some x) :
    get? n marks = some (p x) := by
  refine get?_of_isPrefix ahead ?_
  rw [get?_map, found]
  rfl

theorem isKept_eq (ahead : rows.map p <+: marks) (found : get? n rows = some x) :
    isKept marks n = p x := by
  rw [isKept, mark_eq ahead found]
  cases p x <;> rfl

theorem count_marks (p : α → Bool) (rows : List α) :
    (rows.map p).count true = (rows.filter p).length := by
  rw [List.count_eq_countP, List.countP_map, ← List.countP_eq_length_filter]
  exact List.countP_congr fun x _ => by simp

/-- A row that is kept comes after the rows before it that are kept. -/
theorem place_eq {i : Nat} (ahead : rows.map p <+: marks) (bound : i < rows.length)
    (kept : p rows[i] = true) :
    place marks ((i : Int) + 1) = ((rows.take i).filter p).length + 1 := by
  obtain ⟨more, rfl⟩ := ahead
  have cut : (rows.map p ++ more).take (i + 1) = (rows.take i).map p ++ [true] := by
    rw [List.take_append_of_le_length (by rw [List.length_map]; omega), ← List.map_take,
      List.take_succ_eq_append_getElem bound, List.map_append, List.map_singleton, kept]
  have inside : i + 1 - (rows.map p ++ more).length = 0 := by
    rw [List.length_append, List.length_map]
    omega
  rw [place_succ, cut, inside, List.count_append, count_marks]
  simp

/-- A number that has no row yet has a place beyond the rows that are kept. -/
theorem lt_place {i : Nat} (ahead : rows.map p <+: marks) (beyond : rows.length ≤ i)
    (kept : isKept marks ((i : Int) + 1) = true) :
    ((rows.filter p).length : Int) < place marks ((i : Int) + 1) := by
  have few : (rows.filter p).length ≤ (marks.take i).count true := by
    rw [← count_marks]
    obtain ⟨more, rfl⟩ := ahead
    rw [List.take_append, List.count_append,
      List.take_of_length_le (by rw [List.length_map]; exact beyond)]
    exact Nat.le_add_right _ _
  rw [place_succ]
  by_cases inside : i < marks.length
  · have here : marks[i] = true := by
      rw [isKept, get?_succ, List.getElem?_eq_getElem inside] at kept
      simpa using kept
    rw [List.take_succ_eq_append_getElem inside, List.count_append, here]
    simp only [List.count_singleton_self]
    omega
  · have all : marks.take (i + 1) = marks := List.take_of_length_le (by omega)
    rw [List.take_of_length_le (by omega)] at few
    rw [all]
    omega

/-- A row that is kept is found at its place, and one that is not there is not. -/
theorem get?_filter (ahead : rows.map p <+: marks) (kept : isKept marks n = true) :
    get? (place marks n) (rows.filter p) = get? n rows := by
  by_cases positive : 1 ≤ n
  · obtain ⟨i, rfl⟩ : ∃ i : Nat, n = i + 1 := ⟨n.toNat - 1, by omega⟩
    by_cases bound : i < rows.length
    · have found : get? ((i : Int) + 1) rows = some rows[i] := by
        rw [get?_succ, List.getElem?_eq_getElem bound]
      have marked : p rows[i] = true := (isKept_eq ahead found).symm.trans kept
      have cut : rows.filter p =
          (rows.take i).filter p ++ rows[i] :: (rows.drop (i + 1)).filter p := by
        conv => lhs; rw [← List.take_append_drop i rows, ← List.getElem_cons_drop bound]
        rw [List.filter_append, List.filter_cons_of_pos marked]
      rw [found, place_eq ahead bound marked, get?_succ, cut]
      simp
    · have beyond : rows.length ≤ i := Nat.le_of_not_lt bound
      have far := lt_place ahead beyond kept
      rw [get?_succ, List.getElem?_eq_none beyond, get?]
      split
      · exact List.getElem?_eq_none (by omega)
      · rfl
  · rw [place, if_neg positive, get?, get?, if_neg positive, if_neg positive]

/-- Another row in the place of one that is kept is there after the others were left
out. -/
theorem filter_set (ahead : rows.map p <+: marks) (found : get? n rows = some old)
    (before : p old = true) (after : p x = true) :
    (set n x rows).filter p = set (place marks n) x (rows.filter p) := by
  obtain ⟨i, rfl, bound, cut⟩ := split_of_get? found
  have here : rows[i] = old := by
    rw [get?_succ, List.getElem?_eq_getElem bound] at found
    exact Option.some.inj found
  have whole : rows.set i x = rows.take i ++ x :: rows.drop (i + 1) :=
    List.set_eq_take_append_cons_drop.trans (if_pos bound)
  have kept : rows.filter p =
      (rows.take i).filter p ++ old :: (rows.drop (i + 1)).filter p := by
    conv => lhs; rw [cut]
    rw [List.filter_append, List.filter_cons_of_pos before]
  rw [set_succ, whole, List.filter_append, List.filter_cons_of_pos after,
    place_eq ahead bound (here ▸ before), set_succ, kept]
  simp

/-- Another row in the place of one that is left out is left out as well. -/
theorem filter_set_of_not (found : get? n rows = some old) (before : p old = false)
    (after : p x = false) : (set n x rows).filter p = rows.filter p := by
  obtain ⟨i, rfl, bound, cut⟩ := split_of_get? found
  have whole : rows.set i x = rows.take i ++ x :: rows.drop (i + 1) :=
    List.set_eq_take_append_cons_drop.trans (if_pos bound)
  rw [set_succ, whole]
  conv => rhs; rw [cut]
  rw [List.filter_append, List.filter_append, List.filter_cons_of_neg (by simp [after]),
    List.filter_cons_of_neg (by simp [before])]

/-- The next row that is kept has the next place. -/
theorem place_next (ahead : rows.map p ++ [true] <+: marks) :
    place marks (next rows) = next (rows.filter p) := by
  obtain ⟨more, rfl⟩ := ahead
  have cut : (rows.map p ++ [true] ++ more).take (rows.length + 1) = rows.map p ++ [true] := by
    rw [List.take_append_of_le_length (by simp)]
    exact List.take_of_length_le (by simp)
  rw [next, place_succ, cut, List.count_append, count_marks]
  simp [next]

/-- Rows that are kept stay in their order. -/
theorem place_lt_place (less : m < n) (kept : isKept marks n = true) :
    place marks m < place marks n := by
  by_cases positive : 1 ≤ n
  · obtain ⟨i, rfl⟩ : ∃ i : Nat, n = i + 1 := ⟨n.toNat - 1, by omega⟩
    have step : (marks.take i).count true + (i - marks.length) <
        (marks.take (i + 1)).count true + (i + 1 - marks.length) := by
      by_cases inside : i < marks.length
      · have here : marks[i] = true := by
          rw [isKept, get?_succ, List.getElem?_eq_getElem inside] at kept
          simpa using kept
        rw [List.take_succ_eq_append_getElem inside, List.count_append, here]
        simp only [List.count_singleton_self]
        omega
      · rw [List.take_of_length_le (by omega), List.take_of_length_le (by omega)]
        omega
    rw [place_succ]
    by_cases positive' : 1 ≤ m
    · obtain ⟨j, rfl⟩ : ∃ j : Nat, m = j + 1 := ⟨m.toNat - 1, by omega⟩
      have fewer : (marks.take (j + 1)).count true ≤ (marks.take i).count true :=
        (List.take_sublist_take_left (show j + 1 ≤ i by omega)).count_le true
      rw [place_succ]
      omega
    · rw [place, if_neg positive']
      omega
  · rw [place, place, if_neg positive, if_neg (by omega)]
    exact less

/-- No two rows that are kept have the same place. -/
theorem place_injective (kept : isKept marks m = true) (kept' : isKept marks n = true)
    (same : place marks m = place marks n) : m = n := by
  rcases Int.lt_trichotomy m n with less | equal | more
  · have := place_lt_place less kept'
    omega
  · exact equal
  · have := place_lt_place more kept
    omega

end Places

end BoxOffice.Numbered
