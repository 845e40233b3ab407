import BoxOffice.Timestamp

/-!
# Whole seconds later

Some whole seconds later there is a point in time exactly when there is that second. The
nanoseconds do not matter: they stay within their second, and when a leap second is left they are
counted as those of the second that it follows. So the last second alone bounds what can be added.
-/

namespace BoxOffice.Timestamp

variable {t u : Timestamp} {n : Nat}

/-- The nanoseconds within the second, some whole seconds later. -/
def nanosAfter (t : Timestamp) (n : Nat) : Nat :=
  if n = 0 then t.nanos else t.nanos % 1000000000

theorem nanosAfter_lt (t : Timestamp) (n : Nat) : t.nanosAfter n < 2000000000 := by
  have bound := t.nanos_lt
  unfold nanosAfter
  split <;> omega

/-- Only who stays in a leap second is in one. -/
theorem leap_nanosAfter (leap : 1000000000 ≤ t.nanosAfter n) : (t.seconds + n) % 60 = 59 := by
  unfold nanosAfter at leap
  split at leap
  · rename_i stays
    subst stays
    rw [Int.natCast_zero, Int.add_zero]
    exact t.leap_at_59 leap
  · omega

/-- Adding whole seconds adds them to the seconds. -/
theorem add?_seconds (t : Timestamp) (n : Nat) :
    t.add? (n * 1000000000) = ofParts? (t.seconds + n) (t.nanosAfter n) := by
  have bound := t.nanos_lt
  have whole : ((n : Int) * 1000000000).tdiv 1000000000 = n :=
    Int.mul_tdiv_cancel (n : Int) (by decide)
  have rest : ((n : Int) * 1000000000).tmod 1000000000 = 0 := Int.mul_tmod_left _ _
  have carry {part : Nat} (small : part < 1000000000) :
      ((part : Int) + 0) / 1000000000 = 0 ∧ (((part : Int) + 0) % 1000000000).toNat = part := by
    omega
  unfold add? nanosAfter
  simp only [whole, rest]
  by_cases plain : t.nanos < 1000000000
  · have part : (if n = 0 then t.nanos else t.nanos % 1000000000) = t.nanos := by
      rw [Nat.mod_eq_of_lt plain, ite_self]
    rw [if_pos plain, (carry plain).1, (carry plain).2, part, Int.add_zero]
  · rw [if_neg plain]
    by_cases stays : n = 0
    · subst stays
      simp
    · -- The leap second is left.
      have small : t.nanos - 1000000000 < 1000000000 := by omega
      have part : t.nanos % 1000000000 = t.nanos - 1000000000 := by omega
      rw [if_pos (Or.inl (by omega)), if_neg stays, (carry small).1, (carry small).2, part,
        Int.add_zero]

theorem add?_seconds_of_le (within : t.seconds + n ≤ lastSecond) :
    ∃ u, t.add? (n * 1000000000) = some u ∧ u.seconds = t.seconds + n := by
  have first := t.first_le
  have can : (firstSecond ≤ t.seconds + n ∧ t.seconds + n ≤ lastSecond) ∧
      t.nanosAfter n < 2000000000 ∧ (1000000000 ≤ t.nanosAfter n → (t.seconds + n) % 60 = 59) :=
    ⟨⟨by omega, within⟩, t.nanosAfter_lt n, leap_nanosAfter⟩
  refine ⟨⟨t.seconds + n, t.nanosAfter n, can.1.1, can.1.2, can.2.1, can.2.2⟩, ?_, rfl⟩
  rw [add?_seconds]
  exact dif_pos can

/-- There is no point in time beyond the last second. -/
theorem add?_seconds_eq_none : t.add? (n * 1000000000) = none ↔ lastSecond < t.seconds + n := by
  constructor
  · intro none_
    refine Int.lt_of_not_ge fun within => ?_
    obtain ⟨u, found, -⟩ := add?_seconds_of_le within
    cases none_.symm.trans found
  · intro late
    rw [add?_seconds]
    refine dif_neg ?_
    rintro ⟨⟨-, within⟩, -⟩
    omega

theorem seconds_of_add? (found : t.add? (n * 1000000000) = some u) :
    u.seconds = t.seconds + n := by
  rcases Int.lt_or_le lastSecond (t.seconds + n) with late | within
  · cases (add?_seconds_eq_none.mpr late).symm.trans found
  · obtain ⟨u', found', there⟩ := add?_seconds_of_le within
    obtain rfl : u' = u := Option.some.inj (found'.symm.trans found)
    exact there

end BoxOffice.Timestamp
