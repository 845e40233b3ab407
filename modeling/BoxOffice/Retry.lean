import BoxOffice.Retry.Policy

/-!
# Trying again

An attempt that fails for a transient cause is made again after a wait while the policy has retries left.
Where there is no such wait, trying ends with a panic. `verdict` decides after one attempt; `run` follows a
sequence of results to its end and keeps the waits.
-/

namespace BoxOffice.Retry

variable {α ε : Type}

/-- How trying ends. -/
inductive Outcome (α ε : Type)
  /-- With the result of an attempt. -/
  | ended (result : Except ε α)
  /-- With a panic, because there is no wait. -/
  | panicked (fault : Fault)

/-- What to do after an attempt. -/
inductive Verdict (α ε : Type)
  | stop (outcome : Outcome α ε)
  | again (wait : Span)

/-- What to do after attempt number `retries`, counted from zero. -/
def verdict (p : Policy) (transient : ε → Bool) (draws : Nat → Float) (retries : Nat)
    (result : Except ε α) : Verdict α ε :=
  match result with
  | .ok v => .stop (.ended (.ok v))
  | .error e =>
    if transient e = false ∨ p.maxRetries ≤ retries then .stop (.ended (.error e))
    else
      match p.wait retries (draws retries) with
      | .ok wait => .again wait
      | .error fault => .stop (.panicked fault)

/-- An attempt is made again only while there are retries left. -/
theorem lt_of_again {p : Policy} {transient : ε → Bool} {draws : Nat → Float} {retries : Nat}
    {result : Except ε α} {wait : Span}
    (again : verdict p transient draws retries result = .again wait) : retries < p.maxRetries := by
  unfold verdict at again
  split at again
  · cases again
  · split at again
    · cases again
    · rename_i left
      exact Nat.lt_of_not_le fun spent => left (.inr spent)

/-- An error is final when it does not pass or when no retry is left. -/
theorem final_of_ended {p : Policy} {transient : ε → Bool} {draws : Nat → Float} {retries : Nat}
    {e : ε} {result : Except ε α}
    (ended : verdict p transient draws retries (.error e) = .stop (.ended result)) :
    result = .error e ∧ (transient e = false ∨ p.maxRetries ≤ retries) := by
  simp only [verdict] at ended
  split at ended
  · rename_i final
    cases ended
    exact ⟨rfl, final⟩
  · split at ended <;> cases ended

/-- Trying ends with a panic only where an attempt is to be made again. -/
theorem missing_of_panicked {p : Policy} {transient : ε → Bool} {draws : Nat → Float} {retries : Nat}
    {e : ε} {fault : Fault}
    (panicked : verdict (α := α) p transient draws retries (.error e) = .stop (.panicked fault)) :
    transient e = true ∧ retries < p.maxRetries ∧ p.wait retries (draws retries) = .error fault := by
  simp only [verdict] at panicked
  split at panicked
  · cases panicked
  · rename_i left
    split at panicked <;> rename_i waited <;> cases panicked
    exact ⟨Bool.of_not_eq_false fun permanent => left (.inl permanent),
      Nat.lt_of_not_le fun spent => left (.inr spent), waited⟩

/-- A whole sequence of attempts. -/
structure Course (α ε : Type) where
  /-- The waits between them, in order. -/
  waits : List Span
  /-- What comes of the last one. -/
  outcome : Outcome α ε

/-- The number of attempts made. -/
def Course.attempts (c : Course α ε) : Nat := c.waits.length + 1

/-- The course from attempt `retries` on, when attempt `n` would give `results n`. -/
def runFrom (p : Policy) (transient : ε → Bool) (draws : Nat → Float) (results : Nat → Except ε α)
    (retries : Nat) : Course α ε :=
  match decided : verdict p transient draws retries (results retries) with
  | .stop outcome => ⟨[], outcome⟩
  | .again wait =>
    let later := runFrom p transient draws results (retries + 1)
    ⟨wait :: later.waits, later.outcome⟩
termination_by p.maxRetries - retries
decreasing_by
  have left := lt_of_again decided
  omega

/-- The course of attempts under a policy. -/
def run (p : Policy) (transient : ε → Bool) (draws : Nat → Float) (results : Nat → Except ε α) :
    Course α ε :=
  runFrom p transient draws results 0

/-- The instants of the attempts on a clock of milliseconds, when each attempt takes no time. -/
def Course.starts (c : Course α ε) : List Nat :=
  c.waits.foldl (fun times w => times ++ [times.getLastD 0 + w.ticks]) [0]

end BoxOffice.Retry
