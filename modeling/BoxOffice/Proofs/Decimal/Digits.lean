import BoxOffice.Decimal.Integer
import Mathlib

/-!
# Digits

How many digits a number has, which one is the first, and the same digits with
zeros in front. No two numbers are written alike.
-/

namespace BoxOffice.Decimal

/-- Further digits make a number no smaller. -/
theorem le_foldl (ds : List Nat) (n : Nat) : n ≤ ds.foldl (fun n d => n * 10 + d) n := by
  induction ds generalizing n with
  | nil => exact Nat.le_refl n
  | cons d ds ih => exact Nat.le_trans (by omega) (ih (n * 10 + d))

/-- Only zero begins with the digit zero. -/
theorem head?_digits {n : Nat} (positive : 0 < n) : (digits n).head? ≠ some 0 := by
  induction n using Nat.strongRecOn with
  | _ n ih =>
      rw [digits]
      split
      · simp only [List.head?_cons, ne_eq, Option.some.injEq]
        omega
      · rw [List.head?_append]
        cases front : (digits (n / 10)).head? with
        | none => exact absurd (List.head?_eq_none_iff.mp front) (digits_ne_nil _)
        | some d =>
            rw [Option.some_or, ← front]
            exact ih (n / 10) (by omega) (by omega)

/-! ### Digits with zeros in front -/

/-- The digits of a number with zeros in front up to a width. -/
def filledDigits (width n : Nat) : List Nat :=
  List.replicate (width - (digits n).length) 0 ++ digits n

theorem paddedDigits_eq (width n : Nat) :
    paddedDigits width n = (filledDigits width n).map digitChar := by
  simp only [paddedDigits, filledDigits, List.length_map, List.map_append, List.map_replicate]
  rfl

theorem lt_ten_of_mem_filledDigits {width n d : Nat} (member : d ∈ filledDigits width n) : d < 10 := by
  rcases List.mem_append.mp member with zero | digit
  · rw [List.eq_of_mem_replicate zero]
    decide
  · exact lt_ten_of_mem_digits digit

@[simp]
theorem value_filledDigits (width n : Nat) : value (filledDigits width n) = n := by
  have zeros (k : Nat) : (List.replicate k 0).foldl (fun n d => n * 10 + d) 0 = 0 := by
    induction k with
    | zero => rfl
    | succ k ih => exact ih
  rw [value, filledDigits, List.foldl_append, zeros]
  exact value_digits n

theorem length_digits_le {width n : Nat} (positive : 0 < width) (small : n < 10 ^ width) :
    (digits n).length ≤ width := by
  induction width generalizing n with
  | zero => cases positive
  | succ width ih =>
      rw [digits]
      split
      · simp
      · rename_i large
        cases width with
        | zero => omega
        | succ width =>
            have front := ih (n := n / 10) (Nat.succ_pos _) (by rw [Nat.pow_succ] at small; omega)
            simpa using front

theorem length_filledDigits {width n : Nat} (positive : 0 < width) (small : n < 10 ^ width) :
    (filledDigits width n).length = width := by
  have short := length_digits_le positive small
  simp only [filledDigits, List.length_append, List.length_replicate]
  omega

theorem filledDigits_ne_nil (width n : Nat) : filledDigits width n ≠ [] := by
  simp [filledDigits, digits_ne_nil]

/-! ### Texts of numbers -/

theorem toList_natText (n : Nat) : (natText n).toList = (digits n).map digitChar :=
  String.toList_ofList

/-- Different numbers have different texts. -/
theorem natText_injective : Function.Injective natText := by
  intro m n same
  have read := readDigits?_digits m
  rw [← toList_natText, same, toList_natText, readDigits?_digits] at read
  exact (Option.some.inj read).symm

/-- A number without a sign does not begin with a minus sign. -/
theorem natText_ne_minus (m n : Nat) : natText m ≠ "-" ++ natText n := by
  intro same
  have plain : ∀ d : Fin 10, digitChar d ≠ '-' := by decide
  have heads := congrArg (fun s => s.toList.head?) same
  simp only [String.toList_append, toList_natText, String.reduceToList, List.singleton_append,
    List.head?_cons, List.head?_map] at heads
  obtain ⟨d, first, sign⟩ := Option.map_eq_some_iff.mp heads
  exact plain ⟨d, lt_ten_of_mem_digits (List.mem_of_mem_head? first)⟩ sign

/-- Different numbers of either sign have different texts. -/
theorem intText_injective : Function.Injective intText := by
  intro i j same
  unfold intText at same
  split at same <;> split at same
  · have size := natText_injective (String.append_right_inj _ |>.mp same)
    omega
  · exact absurd same.symm (natText_ne_minus _ _)
  · exact absurd same (natText_ne_minus _ _)
  · have size := natText_injective same
    omega

end BoxOffice.Decimal
