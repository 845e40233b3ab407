import BoxOffice.Retry
import Mathlib

/-!
# The attempts that a policy allows

`Tries` is what somebody does who tries again under a policy, one event after
another: an attempt is made, and what `verdict` says of its result is done,
which is either to stop or to sleep and to make the next attempt. Attempts and
sleeps take time on a clock, whatever unit it counts.

The last attempt that a policy allows is the first one whose result is final or
that has no retry left. Main statement, `run_makesAllowedAttempts`: there is such
an attempt, `run` and every course of events end with its result, all attempts
before it are made once each and in order, and between two of them lies one
sleep, of the wait that the policy has for it. The one exception is a policy that
has no wait where one is needed. Trying then ends with a panic after the attempt
at which the first wait is missing. A spread of zero is safe from that; one that is
no number passes the bounds of the spread and has no wait at all, unless the
backoff is none.
-/

namespace BoxOffice.Retry

open Float.Model

variable {α ε : Type}

/-- A result after which no other attempt is made: a success, or a failure for a
cause that does not pass. -/
def IsFinal (transient : ε → Bool) : Except ε α → Prop
  | .ok _ => True
  | .error e => transient e = false

/-- The attempts at which trying ends at the latest: those with a final result,
and the one after which there is no retry left. -/
def Ends (p : Policy) (transient : ε → Bool) (results : Nat → Except ε α) : Set Nat :=
  {i | i = p.maxRetries ∨ IsFinal transient (results i)}

/-- What happens while something is tried. -/
inductive Event (α ε : Type)
  /-- An attempt is made, from an instant on. -/
  | attempt (number start : Nat) (result : Except ε α)
  | sleep (wait : Span)

section Course

variable (p : Policy) (transient : ε → Bool) (draws : Nat → Float) (results : Nat → Except ε α)
  (took : Nat → Nat) (lasts : Span → Nat) (waits : Nat → Span)

/-- The events from an attempt on that is made at an instant, and what they come
to. Attempt `i` takes the time `took i` and a sleep of a span the time `lasts`
says. -/
inductive Tries : Nat → Nat → List (Event α ε) → Outcome α ε → Prop
  | stop {i t : Nat} {outcome : Outcome α ε}
      (stops : verdict p transient draws i (results i) = .stop outcome) :
      Tries i t [.attempt i t (results i)] outcome
  | again {i t : Nat} {wait : Span} {events : List (Event α ε)} {outcome : Outcome α ε}
      (waits : verdict p transient draws i (results i) = .again wait)
      (later : Tries (i + 1) (t + took i + lasts wait) events outcome) :
      Tries i t (.attempt i t (results i) :: .sleep wait :: events) outcome

/-- The instant at which an attempt is made: after all attempts and sleeps before
it. -/
def startOf (i : Nat) : Nat := ∑ j ∈ Finset.range i, (took j + lasts (waits j))

/-- An attempt and the sleep after it. -/
def retried (i : Nat) : List (Event α ε) :=
  [.attempt i (startOf took lasts waits i) (results i), .sleep (waits i)]

/-- Trying makes the attempts up to a last one, once each and in order, sleeps
between two of them for the wait that the policy has for it, and has an outcome.
Every course of events does so, and there is one; `run` tells the same outcome,
the same waits and the same instants. -/
structure Makes (last : Nat) (outcome : Outcome α ε) : Prop where
  waited : ∀ i < last, p.wait i (draws i) = .ok (waits i)
  attempts : (run p transient draws results).attempts = last + 1
  comes : (run p transient draws results).outcome = outcome
  sleeps : (run p transient draws results).waits = (List.range last).map waits
  starts : (run p transient draws results).starts =
    (List.range (last + 1)).map (startOf (fun _ => 0) Span.ticks waits)
  events : ∀ events outcome', Tries p transient draws results took lasts 0 0 events outcome' ↔
    outcome' = outcome ∧
      events = (List.range last).flatMap (retried results took lasts waits) ++
        [.attempt last (startOf took lasts waits last) (results last)]

end Course

section Verdicts

variable {p : Policy} {transient : ε → Bool} {draws : Nat → Float} {results : Nat → Except ε α}
  {took : Nat → Nat} {lasts : Span → Nat} {waits : Nat → Span} {i k last : Nat}
  {outcome : Outcome α ε}

theorem startOf_succ :
    startOf took lasts waits (i + 1) = startOf took lasts waits i + took i + lasts (waits i) := by
  rw [startOf, Finset.sum_range_succ, ← startOf, Nat.add_assoc]

/-- There is an attempt at which trying ends. -/
theorem exists_isLeast_ends (p : Policy) (transient : ε → Bool) (results : Nat → Except ε α) :
    ∃ k, IsLeast (Ends p transient results) k := by
  classical
  have ends : ∃ i, i ∈ Ends p transient results := ⟨p.maxRetries, .inl rfl⟩
  exact ⟨Nat.find ends, Nat.find_spec ends, fun i final => Nat.find_min' ends final⟩

/-- Trying stops with the result of an attempt at which it ends. -/
theorem verdict_of_ends (ends : i ∈ Ends p transient results) :
    verdict p transient draws i (results i) = .stop (.ended (results i)) := by
  unfold verdict
  rcases ends with spent | final
  · cases results i with
    | ok value => rfl
    | error e => simp [spent]
  · cases result : results i with
    | ok value => rfl
    | error e =>
        rw [result] at final
        have permanent : transient e = false := final
        simp [permanent]

/-- Every attempt before that is followed by a wait, or by a panic where there is
none. -/
theorem verdict_of_lt (last : IsLeast (Ends p transient results) k) (early : i < k) :
    (∀ wait, p.wait i (draws i) = .ok wait →
      verdict p transient draws i (results i) = .again wait) ∧
    ∀ fault, p.wait i (draws i) = .error fault →
      verdict p transient draws i (results i) = .stop (.panicked fault) := by
  have goes_on : i ∉ Ends p transient results := by
    intro ends
    exact absurd (last.2 ends) (Nat.not_le.mpr early)
  have retries : i < p.maxRetries := Nat.lt_of_lt_of_le early (last.2 (.inl rfl))
  cases result : results i with
  | ok value => exact absurd (.inr (by rw [result]; trivial)) goes_on
  | error e =>
      have passing : transient e = true := by
        cases passes : transient e with
        | true => rfl
        | false => exact absurd (.inr (by rw [result]; exact passes)) goes_on
      have refused : ¬(transient e = false ∨ p.maxRetries ≤ i) := by
        rintro (permanent | spent)
        · rw [passing] at permanent
          cases permanent
        · omega
      constructor
      · intro wait waited
        simp only [verdict, if_neg refused, waited]
      · intro fault broken
        simp only [verdict, if_neg refused, broken]

/-! ### Following the course -/

/-- `run` does what the verdicts say. -/
theorem runFrom_stop (stops : verdict p transient draws i (results i) = .stop outcome) :
    runFrom p transient draws results i = ⟨[], outcome⟩ := by
  rw [runFrom]
  split
  · rename_i decided
    cases stops.symm.trans decided
    rfl
  · rename_i decided
    cases stops.symm.trans decided

theorem runFrom_again {wait : Span}
    (again : verdict p transient draws i (results i) = .again wait) :
    runFrom p transient draws results i =
      ⟨wait :: (runFrom p transient draws results (i + 1)).waits,
        (runFrom p transient draws results (i + 1)).outcome⟩ := by
  conv => lhs; rw [runFrom]
  split
  · rename_i decided
    cases again.symm.trans decided
  · rename_i decided
    cases again.symm.trans decided
    rfl

section Decided

variable (goes : ∀ i < last, verdict p transient draws i (results i) = .again (waits i))
  (stops : verdict p transient draws last (results last) = .stop outcome)

include goes stops

/-- From any attempt on, the waits are those before the attempts up to the last
one, and the outcome is what that one comes to. -/
theorem runFrom_eq {m : Nat} (before : i + m = last) :
    runFrom p transient draws results i = ⟨(List.range' i m).map waits, outcome⟩ := by
  induction m generalizing i with
  | zero =>
      obtain rfl : i = last := before
      exact runFrom_stop stops
  | succ m ih =>
      rw [runFrom_again (goes i (by omega)), ih (by omega)]
      rfl

/-- From any attempt on, the events are the attempts up to the last one, with a
sleep after each but the last. -/
theorem tries_iff {m : Nat} (before : i + m = last) {events : List (Event α ε)}
    {outcome' : Outcome α ε} :
    Tries p transient draws results took lasts i (startOf took lasts waits i) events outcome' ↔
      outcome' = outcome ∧
        events = (List.range' i m).flatMap (retried results took lasts waits) ++
          [.attempt last (startOf took lasts waits last) (results last)] := by
  induction m generalizing i events with
  | zero =>
      obtain rfl : i = last := before
      constructor
      · intro tries
        cases tries with
        | stop stopped =>
            cases stops.symm.trans stopped
            exact ⟨rfl, rfl⟩
        | again again => cases stops.symm.trans again
      · rintro ⟨rfl, rfl⟩
        exact .stop stops
  | succ m ih =>
      have goes_on := goes i (by omega)
      constructor
      · intro tries
        cases tries with
        | stop stopped => cases goes_on.symm.trans stopped
        | again again later =>
            cases goes_on.symm.trans again
            rw [← startOf_succ] at later
            obtain ⟨rfl, rfl⟩ := (ih (by omega)).mp later
            exact ⟨rfl, rfl⟩
      · rintro ⟨rfl, rfl⟩
        refine .again goes_on ?_
        rw [← startOf_succ]
        exact (ih (by omega)).mpr ⟨rfl, rfl⟩

end Decided

/-- The instants that a course tells are those of the attempts on a clock of ticks,
when attempts take no time. -/
theorem starts_eq (outcome : Outcome α ε) (waits : Nat → Span) (k : Nat) :
    (Course.mk ((List.range k).map waits) outcome).starts =
      (List.range (k + 1)).map (startOf (fun _ => 0) Span.ticks waits) := by
  induction k with
  | zero => simp [Course.starts, startOf]
  | succ k ih =>
      simp only [Course.starts] at ih ⊢
      rw [List.range_succ, List.map_append, List.foldl_append, ih, List.range_succ (n := k + 1),
        List.map_append, List.map_singleton, List.map_singleton, List.foldl_cons, List.foldl_nil]
      have newest : ((List.range (k + 1)).map (startOf (fun _ => 0) Span.ticks waits)).getLastD 0 =
          startOf (fun _ => 0) Span.ticks waits k := by
        rw [List.range_succ, List.map_append, List.map_singleton]
        simp
      rw [newest, startOf_succ]
      rfl

/-- What is tried follows the verdicts. -/
theorem makes_of_verdicts (took : Nat → Nat) (lasts : Span → Nat)
    (waited : ∀ i < last, p.wait i (draws i) = .ok (waits i))
    (goes : ∀ i < last, verdict p transient draws i (results i) = .again (waits i))
    (stops : verdict p transient draws last (results last) = .stop outcome) :
    Makes p transient draws results took lasts waits last outcome := by
  have whole : run p transient draws results = ⟨(List.range last).map waits, outcome⟩ := by
    rw [run, runFrom_eq goes stops (Nat.zero_add last), List.range_eq_range']
  refine ⟨waited, ?_, ?_, ?_, ?_, fun events outcome' => ?_⟩
  · simp [whole, Course.attempts]
  · rw [whole]
  · rw [whole]
  · rw [whole, starts_eq]
  · rw [List.range_eq_range']
    exact tries_iff goes stops (Nat.zero_add last)

end Verdicts

/-! ### Waits that there are not -/

section Waits

variable {p : Policy}

/-- Without spread a wait is the backoff. -/
theorem wait_of_no_spread (still : (p.boundedSpread == 0.0) = true) (i : Nat) (draw : Float) :
    p.wait i draw = .ok (p.backoff i) := by
  simp [Policy.wait, still]

/-- There is one double only that is no number. -/
theorem eq_nan_of_isNaN {x : Float} (nan : x.isNaN = true) :
    x = Float.ofBits 0x7FF8000000000000 := by
  obtain ⟨⟨bits, valid⟩⟩ := x
  have unpacked : (UnpackedFloat.unpack Format.binary64 bits.toBitVec).isNaN = true := nan
  have packed : bits.toBitVec = UnpackedFloat.packedNaN Format.binary64 := by
    simp only [UnpackedFloat.unpack] at unpacked
    split at unpacked
    · rename_i exponent
      split at unpacked
      · cases unpacked
      · rename_i mantissa
        exact valid.eq_packedNaN exponent mantissa
    · split at unpacked
      · split at unpacked <;> cases unpacked
      · cases unpacked
  obtain rfl : bits = ⟨UnpackedFloat.packedNaN Format.binary64⟩ := by
    cases bits
    exact congrArg UInt64.ofBitVec packed
  rfl

/-- A spread that is no number passes the bounds of the spread, and there is no factor
to draw. -/
theorem wait_of_nan (nan : p.spread.isNaN = true) {i : Nat} (lasts : (p.backoff i).nanos ≠ 0)
    (draw : Float) : p.wait i draw = .error .noFactor := by
  have bounded : p.boundedSpread = Float.ofBits 0x7FF8000000000000 := by
    unfold Policy.boundedSpread
    rw [eq_nan_of_isNaN nan]
    rfl
  have spread : (Float.ofBits 0x7FF8000000000000 == 0.0) = false := by rfl
  have lasting : ((p.backoff i).nanos == 0) = false := beq_false_of_ne lasts
  have empty : ¬ (1.0 : Float) - Float.ofBits 0x7FF8000000000000 ≤
    1.0 + Float.ofBits 0x7FF8000000000000 := by decide
  simp only [Policy.wait, bounded, spread, lasting, Bool.or_false, Bool.false_eq_true, if_false,
    if_neg empty]

end Waits

/-! ### Trying to the end -/

section Trying

variable (p : Policy) (transient : ε → Bool) (draws : Nat → Float) (results : Nat → Except ε α)
  (took : Nat → Nat) (lasts : Span → Nat)

/-- The wait after an attempt, where there is one. -/
def waitAfter (i : Nat) : Span := (p.wait i (draws i)).toOption.getD ⟨0⟩

variable {p draws}

theorem wait_eq_waitAfter {i : Nat} (waits : ∀ fault, p.wait i (draws i) ≠ .error fault) :
    p.wait i (draws i) = .ok (waitAfter p draws i) := by
  cases wait : p.wait i (draws i) with
  | ok w => rw [waitAfter, wait]; rfl
  | error fault => exact absurd wait (waits fault)

variable {transient results}

/-- When no wait is missing, all attempts are made that the policy allows. -/
theorem makes_allowed {k : Nat} (last : IsLeast (Ends p transient results) k)
    (waits : ∀ i < k, ∀ fault, p.wait i (draws i) ≠ .error fault) :
    Makes p transient draws results took lasts (waitAfter p draws) k (.ended (results k)) := by
  have waited (i : Nat) (early : i < k) := wait_eq_waitAfter (waits i early)
  exact makes_of_verdicts took lasts waited
    (fun i early => (verdict_of_lt last early).1 _ (waited i early)) (verdict_of_ends last.1)

/-- The first wait that is missing ends it with a panic. -/
theorem makes_broken {j k : Nat} {fault : Fault} (last : IsLeast (Ends p transient results) k)
    (early : j < k) (broken : p.wait j (draws j) = .error fault)
    (waits : ∀ i < j, ∀ fault, p.wait i (draws i) ≠ .error fault) :
    Makes p transient draws results took lasts (waitAfter p draws) j (.panicked fault) := by
  have waited (i : Nat) (earlier : i < j) := wait_eq_waitAfter (waits i earlier)
  exact makes_of_verdicts took lasts waited
    (fun i earlier => (verdict_of_lt last (Nat.lt_trans earlier early)).1 _ (waited i earlier))
    ((verdict_of_lt last early).2 fault broken)

end Trying

/-- Trying again makes exactly the attempts that the policy allows, unless a wait is
missing before the last of them. There is a last attempt: the least that has a final
result or no retry left. If the policy has all waits before it, the attempts up to it
are made and its result is the outcome. Otherwise the attempts up to the first missing
wait are made, and then comes a panic. Without spread no wait is missing, and an attempt
is made when all backoffs before it are over and all attempts before it have had their
time. With a spread that is no number every wait is missing whose backoff is not
none. -/
theorem run_makesAllowedAttempts (p : Policy) (transient : ε → Bool) (draws : Nat → Float)
    (results : Nat → Except ε α) (took : Nat → Nat) (lasts : Span → Nat) :
    ∃ k, IsLeast (Ends p transient results) k ∧
      (((∀ i < k, ∀ fault, p.wait i (draws i) ≠ .error fault) ∧
          Makes p transient draws results took lasts (waitAfter p draws) k (.ended (results k))) ∨
        ∃ j < k, ∃ fault, p.wait j (draws j) = .error fault ∧
          (∀ i < j, ∀ fault, p.wait i (draws i) ≠ .error fault) ∧
          Makes p transient draws results took lasts (waitAfter p draws) j (.panicked fault)) ∧
      ((p.boundedSpread == 0.0) = true →
        (∀ i fault, p.wait i (draws i) ≠ .error fault) ∧
        ∀ j, startOf took lasts (waitAfter p draws) j =
          ∑ i ∈ Finset.range j, lasts (p.backoff i) + ∑ i ∈ Finset.range j, took i) ∧
      (p.spread.isNaN = true → ∀ i, (p.backoff i).nanos ≠ 0 →
        p.wait i (draws i) = .error .noFactor) := by
  classical
  obtain ⟨k, last⟩ := exists_isLeast_ends p transient results
  refine ⟨k, last, ?_, ?_, fun nan i lasting => wait_of_nan nan lasting _⟩
  · by_cases missing : ∃ j, j < k ∧ ∃ fault, p.wait j (draws j) = .error fault
    · obtain ⟨early, fault, broken⟩ := Nat.find_spec missing
      have waits (i : Nat) (earlier : i < Nat.find missing) (fault : Fault) :
          p.wait i (draws i) ≠ .error fault := fun gone =>
        Nat.find_min missing earlier ⟨Nat.lt_trans earlier early, fault, gone⟩
      exact .inr ⟨_, early, fault, broken, waits, makes_broken took lasts last early broken waits⟩
    · have waits (i : Nat) (early : i < k) (fault : Fault) : p.wait i (draws i) ≠ .error fault :=
        fun gone => missing ⟨i, early, fault, gone⟩
      exact .inl ⟨waits, makes_allowed took lasts last waits⟩
  · intro still
    have wait (i : Nat) : p.wait i (draws i) = .ok (p.backoff i) := wait_of_no_spread still i _
    refine ⟨fun i fault gone => ?_, fun j => ?_⟩
    · cases (wait i).symm.trans gone
    · rw [startOf, ← Finset.sum_add_distrib]
      refine Finset.sum_congr rfl fun i _ => ?_
      have backoff : waitAfter p draws i = p.backoff i := by
        rw [waitAfter, wait i]
        rfl
      rw [backoff, Nat.add_comm]

/-- The usual policy has no spread. -/
example : (Policy.standard.boundedSpread == 0.0) = true := by rfl

/-- The usual policy with a spread that is no number. -/
def unspread : Policy := { Policy.standard with spread := Float.ofBits 0x7FF8000000000000 }

theorem backoff_unspread : unspread.backoff 0 = .ofMillis 100 := by
  have power : Policy.power unspread.multiplier (min 0 Policy.maxExponent) = 1.0 := by
    rw [Policy.power, Policy.powerFrom]
    rfl
  unfold Policy.backoff
  rw [power]
  rfl

/-- What is locked the first time and free the second time. -/
def locked (i : Nat) : Except String Nat := if i = 0 then .error "locked" else .ok i

/-- It allows a second attempt after one that failed for a cause that passes, and the
second one would succeed. It is not made. -/
theorem run_unspread :
    IsLeast (Ends unspread (fun _ => true) locked) 1 ∧ locked 1 = .ok 1 ∧
      (run unspread (fun _ => true) (fun _ => 0.5) locked).attempts = 1 ∧
      (run unspread (fun _ => true) (fun _ => 0.5) locked).outcome = .panicked .noFactor := by
  have last : IsLeast (Ends unspread (fun _ => true) locked) 1 := by
    refine ⟨.inr trivial, fun i ends => ?_⟩
    rcases Nat.eq_zero_or_pos i with rfl | later
    · rcases ends with spent | final
      · cases spent
      · cases final
    · exact later
  have broken : unspread.wait 0 0.5 = .error .noFactor :=
    wait_of_nan rfl (by rw [backoff_unspread]; decide) _
  have makes : Makes unspread (fun _ => true) (fun _ => 0.5) locked (fun _ => 0) Span.ticks
      (waitAfter unspread fun _ => 0.5) 0 (.panicked .noFactor) :=
    makes_broken _ _ last Nat.one_pos broken nofun
  exact ⟨last, rfl, makes.attempts, makes.comes⟩

end BoxOffice.Retry
