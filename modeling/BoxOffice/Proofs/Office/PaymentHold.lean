import BoxOffice.Proofs.Office.Promptness
import BoxOffice.Proofs.Timestamp.Adding

/-!
# How long seats may be held for payment

The payment hold is configured as a number of seconds of 64 bits, and there are two bounds that
it may miss. It has to be a duration, and durations are counted in milliseconds of 64 bits with
a sign: the seconds are clamped to as many as can be counted, which are a thousand times more
than that. And the seats of a request are held until a date, of which there is a last one.

An office opens exactly when its hold is a duration. In an office that has opened every request
for seats comes to its end. It is answered with a booking or a refusal, unless it has found an
event that is not over and a user, and the hold would end beyond the last second; then it is left
without a date, and that is the only way in which it may be. Nor has a hold to do with the one
other way in which a request may end: an attempt to book is to be made again, and the retry
policy has no wait for that.
-/

namespace BoxOffice

namespace Settings

/-- The greatest signed number of 64 bits. -/
def maxSigned64 : Nat := 9223372036854775807

/-- The hold is clamped to the seconds that can be counted. It is a duration when its
milliseconds can be. -/
theorem Booking.hold?_eq_clamped (b : Booking) :
    b.hold? =
      if min b.holdDuration maxSigned64 * 1000 ≤ maxSigned64 then
        some (min b.holdDuration maxSigned64)
      else none := by
  unfold hold? longestHold maxSigned64
  by_cases told : b.holdDuration ≤ 9223372036854775
  · have unclamped : min b.holdDuration 9223372036854775807 = b.holdDuration := by omega
    rw [if_pos told, unclamped, if_pos (by omega)]
  · rw [if_neg told, if_neg (by omega)]

/-- Every number of 64 bits can be configured. -/
theorem holdDuration_ofLookup {lookup : String → Option String} {n : Nat} (fits : n ≤ max64)
    (given : lookup "BOOKING_HOLD_DURATION" = some (Decimal.natText n)) :
    (ofLookup lookup).booking.holdDuration = n := by
  have read : ((lookup "BOOKING_HOLD_DURATION").bind (Decimal.readUnsigned max64)).getD 300 = n := by
    rw [given, Option.bind_some, Decimal.readUnsigned_natText fits, Option.getD_some]
  exact read

end Settings

namespace Office

open Ledger (Ticket)

/-! ### Opening -/

/-- Seats of an office are held for payment as long as settings say. -/
def HoldsAs (s : Settings) (o : Office) : Prop :=
  (Setup.ofSettings? s).map Setup.hold = some o.setup.hold

section Opening

variable {s : Settings} {o : Office}

theorem holdsAs_iff : HoldsAs s o ↔ s.booking.holdDuration ≤ Settings.longestHold ∧
    o.setup.hold = s.booking.holdDuration * 1000000000 := by
  unfold HoldsAs Setup.ofSettings? Settings.Booking.hold?
  split
  · rename_i told
    constructor
    · intro holds
      exact ⟨told, (Option.some.inj holds).symm⟩
    · rintro ⟨-, held⟩
      exact congrArg some held.symm
  · rename_i untold
    constructor
    · intro holds
      cases holds
    · rintro ⟨told, -⟩
      exact absurd told untold

/-- A hold that is a duration is used by the office that settings ask for. -/
theorem ofSettings?_of_le (clock : Timestamp)
    (told : s.booking.holdDuration ≤ Settings.longestHold) :
    ∃ o, ofSettings? s clock = some o ∧ o.clock = clock ∧ IsNew o ∧ HoldsAs s o := by
  have made : ∃ setup, Setup.ofSettings? s = some setup ∧ setup.scan = id := by
    unfold Setup.ofSettings? Settings.Booking.hold?
    rw [if_pos told]
    exact ⟨_, rfl, rfl⟩
  obtain ⟨setup, made, scan⟩ := made
  refine ⟨_, congrArg (Option.map _) made, rfl, .opened (fun ids => ?_) _ _ _ _ _, ?_⟩
  · rw [scan]
    exact .refl ids
  · exact congrArg (Option.map Setup.hold) made

theorem ofSettings?_of_lt (clock : Timestamp)
    (untold : Settings.longestHold < s.booking.holdDuration) : ofSettings? s clock = none := by
  unfold ofSettings? Setup.ofSettings? Settings.Booking.hold?
  rw [if_neg (Nat.not_le_of_gt untold)]
  rfl

/-- An office can be opened exactly when its hold is a duration. -/
theorem opens_iff (s : Settings) (clock : Timestamp) :
    (∃ o, ofSettings? s clock = some o ∧ o.clock = clock ∧ IsNew o ∧ HoldsAs s o) ↔
      s.booking.holdDuration ≤ Settings.longestHold := by
  constructor
  · rintro ⟨o, -, -, -, holds⟩
    exact (holdsAs_iff.mp holds).1
  · exact ofSettings?_of_le clock

end Opening

/-- The set-up is that of the first office in every turn of a run. -/
theorem Run.setup {first o : Office} {turns : List Turn} (run : Run first turns o) :
    o.setup = first.setup ∧ ∀ x ∈ turns, x.before.setup = first.setup := by
  induction run with
  | start => exact ⟨rfl, by simp⟩
  | next run moved ih =>
      obtain ⟨same, all⟩ := ih
      refine ⟨(moves_of_apply moved).setup.trans same, fun x member => ?_⟩
      rcases List.mem_append.mp member with early | last
      · exact all x early
      · rw [List.mem_singleton.mp last]
        exact same

/-! ### Requests for seats -/

/-- A request for seats has found its event, which is not over, and its user, and so many
seconds later there is no second. -/
def IsTooLate (event user : PublicId) (seats hold : Nat) (own : List Turn) : Prop :=
  ∃ x y known, own = [x, y] ∧ x.FindsEvent event seats known ∧
    y.before.clock.after known.endDate = false ∧ (y.before.users.find? user).isSome ∧
    Timestamp.lastSecond < y.before.clock.seconds + hold

/-- A request for seats is to try again, and there is no wait before that. -/
def IsWaitless (t : Ticket) (event user : PublicId) (seats : Nat) (fault : Retry.Fault)
    (own : List Turn) : Prop :=
  ∃ x y z tries known r, own = x :: y :: tries ++ [z] ∧ x.FindsEvent event seats known ∧
    y.FindsUser known user seats r ∧ z.LacksWait t known r fault

/-- The answer to a request for seats is a booking or a refusal, unless the request is too late
for its hold or is to try again without a wait. -/
inductive Suits (t : Ticket) (event user : PublicId) (seats hold : Nat) (own : List Turn) :
    Answer → Prop
  | undated (late : IsTooLate event user seats hold own) : Suits t event user seats hold own .undated
  | panicked {fault : Retry.Fault} (timely : ¬ IsTooLate event user seats hold own)
      (waitless : IsWaitless t event user seats fault own) :
      Suits t event user seats hold own (.panicked (some fault))
  | booking (result : Except Booking.Error Booking.View)
      (timely : ¬ IsTooLate event user seats hold own)
      (waits : ∀ fault, ¬ IsWaitless t event user seats fault own) :
      Suits t event user seats hold own (.booking result)

/-- What becomes of a request for seats that are held for some seconds. -/
structure IsHeard (t : Ticket) (event user : PublicId) (seats hold : Nat) (own : List Turn)
    (o : Office) : Prop where
  /-- It has a bounded number of turns. -/
  few : own.length ≤ mostTurns o.setup.retry.maxRetries
  /-- While it is not over it can get on as soon as its time has come, whatever others did. -/
  ready : ∀ task, o.task? t = some task → (∀ due ∈ task.dues, due ≤ o.now) →
    (o.stepTask t task).isSome
  /-- A turn of its own leaves it something to do or answers it. -/
  advances : ∀ o', Move.apply o (.turn (.caller t)) = some o' →
    (o'.task? t).isSome ∨ (Keyed.get? t o'.answers).isSome
  /-- While it is not over it is answered when it alone is played on. -/
  concludes : ∀ task, o.task? t = some task → o.Concludes t
  /-- It is answered with a booking or a refusal, unless it is too late for its hold or there is
  no wait for it. -/
  answer : ∀ answer, Keyed.get? t o.answers = some answer →
    Suits t event user seats hold own answer
  /-- What it has booked is held for as long as is configured. -/
  expires : ∀ view, Keyed.get? t o.answers = some (.booking (.ok view)) →
    ∃ x y rest, own = x :: y :: rest ∧ view.expiresAt.seconds = y.before.clock.seconds + hold

section Courses

variable {t : Ticket} {event user : PublicId} {seats hold : Nat} {own : List Turn} {answer : Answer}

theorem not_isTooLate_of_long {x y z : Turn} {rest : List Turn} (long : own = x :: y :: z :: rest) :
    ¬ IsTooLate event user seats hold own := by
  rintro ⟨x', y', known, short, -⟩
  cases long.symm.trans short

theorem not_isTooLate_of_tried {x y z : Turn} {tries : List Turn} :
    ¬ IsTooLate event user seats hold (x :: y :: tries ++ [z]) := by
  cases tries with
  | nil => exact not_isTooLate_of_long rfl
  | cons first rest => exact not_isTooLate_of_long rfl

theorem not_isWaitless_of_short (short : own.length ≤ 2) (fault : Retry.Fault) :
    ¬ IsWaitless t event user seats fault own := by
  rintro ⟨x, y, z, tries, known, r, rfl, -⟩
  simp at short

/-- A request that is to try again without a wait does nothing but that in its last turn. -/
theorem IsWaitless.last {turns : List Turn} {z : Turn} {fault : Retry.Fault}
    (waitless : IsWaitless t event user seats fault (turns ++ [z])) :
    ∃ known r, z.LacksWait t known r fault := by
  obtain ⟨x, y, z', tries, known, r, same, -, -, lacks⟩ := waitless
  obtain ⟨-, last⟩ := List.append_inj' same rfl
  obtain rfl := (List.cons.inj last).1
  exact ⟨known, r, lacks⟩

/-- An attempt fails with one error, after so many others. -/
theorem Turn.Fails.eq {x : Turn} {known known' : EventSnapshot} {r r' : Booking.Request}
    {retries retries' : Nat} {e e' : Ledger.Error} (fails : x.Fails t known r retries e)
    (fails' : x.Fails t known' r' retries' e') : retries' = retries ∧ e' = e := by
  cases fails with
  | atOnce at_ answered =>
      cases fails' with
      | atOnce at_' answered' =>
          cases at_.symm.trans at_'
          cases answered.symm.trans answered'
          exact ⟨rfl, rfl⟩
      | later at_' => cases at_.symm.trans at_'
  | later at_ answered =>
      cases fails' with
      | atOnce at_' => cases at_.symm.trans at_'
      | later at_' answered' =>
          cases at_.symm.trans at_'
          cases answered.symm.trans answered'
          exact ⟨rfl, rfl⟩

/-- An attempt that fails for good is not made again. -/
theorem Turn.GivesUp.not_lacksWait {x : Turn} {known known' : EventSnapshot}
    {r r' : Booking.Request} {cause : Ledger.Error} {fault : Retry.Fault}
    (givesUp : x.GivesUp t known r cause) : ¬ x.LacksWait t known' r' fault := by
  obtain ⟨⟨retries, fails, final⟩, -⟩ := givesUp
  rintro ⟨⟨retries', cause', fails', passes, left, -⟩, -⟩
  obtain ⟨rfl, rfl⟩ := fails.eq fails'
  rcases final with permanent | spent
  · cases permanent.symm.trans passes
  · omega

/-- What the turns of a request for seats come to suits its answer. -/
theorem Course.suits (course : Course t event user seats own answer)
    (held : ∀ x ∈ own, x.before.setup.hold = hold * 1000000000) :
    Suits t event user seats hold own answer := by
  cases course with
  | noSeats none_ _ _ =>
      refine .booking _ ?_ (not_isWaitless_of_short (by simp))
      rintro ⟨x, y, known, short, -⟩
      cases short
  | unknownEvent _ unknown _ _ =>
      refine .booking _ ?_ (not_isWaitless_of_short (by simp))
      rintro ⟨x, y, known, short, -⟩
      cases short
  | expired first past _ _ =>
      refine .booking _ ?_ (not_isWaitless_of_short (by simp))
      rintro ⟨x, y, known, same, finds, current, -⟩
      cases same
      cases first.found.symm.trans finds.found
      cases past.symm.trans current
  | unknownUser first _ unknown _ _ =>
      refine .booking _ ?_ (not_isWaitless_of_short (by simp))
      rintro ⟨x, y, known, same, -, -, found, -⟩
      cases same
      rw [unknown] at found
      cases found
  | @undated x y known first current found undated _ _ =>
      refine .undated ⟨x, y, known, rfl, first, current, found, ?_⟩
      rw [held y (by simp)] at undated
      exact Timestamp.add?_seconds_eq_none.mp undated
  | refused _ _ _ givesUp =>
      refine .booking _ not_isTooLate_of_tried fun fault waitless => ?_
      obtain ⟨known', r', lacks⟩ := waitless.last
      exact givesUp.not_lacksWait lacks
  | panicked first second _ lacks =>
      exact .panicked not_isTooLate_of_tried ⟨_, _, _, _, _, _, rfl, first, second, lacks⟩
  | @booked x y commit announce hand tries known r row sold b _ _ _ _ _ handing _ =>
      have split : x :: y :: tries ++ [commit, announce, hand] =
          (x :: y :: (tries ++ [commit, announce])) ++ [hand] := by simp
      rw [split]
      refine .booking _ not_isTooLate_of_tried fun fault waitless => ?_
      obtain ⟨known', r', ⟨⟨retries, cause, fails, -⟩, -⟩⟩ := waitless.last
      cases fails with
      | atOnce at_ => cases handing.symm.trans at_
      | later at_ => cases handing.symm.trans at_

/-- Seats are held from the turn on that has found the user. -/
theorem Course.expires {view : Booking.View}
    (course : Course t event user seats own (.booking (.ok view)))
    (held : ∀ x ∈ own, x.before.setup.hold = hold * 1000000000) :
    ∃ x y rest, own = x :: y :: rest ∧ view.expiresAt.seconds = y.before.clock.seconds + hold := by
  cases course with
  | @booked x y commit announce hand tries known r row sold b _ second _ stores _ _ _ =>
      refine ⟨x, y, tries ++ [commit, announce, hand], rfl, ?_⟩
      have until_ := second.held
      rw [held y (by simp), ← stores.expiresAt] at until_
      exact Timestamp.seconds_of_add? until_

end Courses

/-! ### Runs -/

section Runs

variable {first o o₁ o₂ : Office} {turns before after : List Turn} {event user : PublicId}
  {seats hold : Nat}

/-- A request for seats is heard, whatever others do. -/
theorem Run.isHeard (run : Run first turns o) (new : IsNew first)
    (held : first.setup.hold = hold * 1000000000)
    (asked : turns = before ++ ⟨.ask (.create event user seats), o₁, o₂⟩ :: after) :
    IsHeard o₁.tickets event user seats hold (ownTurns o₁.tickets after) o := by
  obtain ⟨-, tells⟩ := run.createsOnce new asked
  have backed := (run.isBacked new.isBacked).1
  have same (x : Turn) (own : x ∈ ownTurns o₁.tickets after) :
      x.before.setup.hold = hold * 1000000000 := by
    have there : x ∈ turns := by
      rw [asked]
      exact List.mem_append_right _ (List.mem_cons_of_mem _ (List.mem_filter.mp own).1)
    rw [run.setup.2 x there, held]
  subst asked
  obtain ⟨earlier, moved, later⟩ := run.split
  have backed₁ := (earlier.isBacked new.isBacked).1
  obtain rfl : (o₁.ask (.create event user seats)).2 = o₂ := Option.some.inj moved
  obtain ⟨-, few, ahead⟩ :=
    later.paced (backed₁.move moved).1 (Nat.lt_succ_self _) (.ask backed₁ event user seats)
  refine ⟨few, ?_, ?_, ?_, ?_, ?_⟩
  · intro task at_ past
    obtain ⟨n, left, -⟩ := ahead task at_
    exact left.ready backed at_ past
  · intro o' turned
    obtain ⟨task, at_, step⟩ := Option.bind_eq_some_iff.mp turned
    obtain ⟨n, left, -⟩ := ahead task at_
    cases left.stepTask backed at_ step with
    | answered _ answered => exact .inr (Option.isSome_iff_exists.mpr ⟨_, answered⟩)
    | ahead at_' _ _ => exact .inl (Option.isSome_iff_exists.mpr ⟨_, at_'⟩)
  · intro task at_
    obtain ⟨n, left, -⟩ := ahead task at_
    exact left.concludes backed at_
  · intro answer answered
    exact (tells answer answered).suits same
  · intro view answered
    exact (tells _ answered).expires same

/-- Whatever is configured, an office opens exactly when its hold is a duration, and then every
request for seats comes to its end, with a booking or a refusal unless it is too late for its
hold or there is no wait for it. -/
theorem opens_and_hears (lookup : String → Option String) :
    (∀ clock, (∃ first, ofSettings? (.ofLookup lookup) clock = some first ∧
        first.clock = clock ∧ IsNew first ∧ HoldsAs (.ofLookup lookup) first) ↔
          (Settings.ofLookup lookup).booking.holdDuration ≤ Settings.longestHold) ∧
      ∀ {first o o₁ o₂ : Office} {turns before after : List Turn} {event user : PublicId}
        {seats : Nat}, IsNew first → HoldsAs (.ofLookup lookup) first → Run first turns o →
        turns = before ++ ⟨.ask (.create event user seats), o₁, o₂⟩ :: after →
        IsHeard o₁.tickets event user seats (Settings.ofLookup lookup).booking.holdDuration
          (ownTurns o₁.tickets after) o := by
  refine ⟨opens_iff _, fun new holds run asked => ?_⟩
  exact run.isHeard new (holdsAs_iff.mp holds).2 asked

end Runs

/-! ### A talk -/

/-- Nothing is configured but the payment hold. -/
def holding (seconds : Nat) (name : String) : Option String :=
  if name = "BOOKING_HOLD_DURATION" then some (Decimal.natText seconds) else none

theorem holdDuration_holding {seconds : Nat} (fits : seconds ≤ Settings.max64) :
    (Settings.ofLookup (holding seconds)).booking.holdDuration = seconds :=
  Settings.holdDuration_ofLookup fits rfl

theorem holdsAs_of_holding {seconds : Nat} {o : Office} (fits : seconds ≤ Settings.longestHold)
    (held : o.setup.hold = seconds * 1000000000) :
    HoldsAs (.ofLookup (holding seconds)) o := by
  have configured := holdDuration_holding (Nat.le_trans fits (by decide : _ ≤ Settings.max64))
  rw [holdsAs_iff, configured]
  exact ⟨fits, held⟩

theorem opens_and_hears_talk :
    HoldsAs (.ofLookup (holding 300)) vacant ∧
      IsHeard 1 (.ofNat 1) (.ofNat 2) 2 300 (ownTurns 1 (wanted.play buying))
        (wanted.played buying) ∧
      ∃ view, Keyed.get? 1 (wanted.played buying).answers = some (.booking (.ok view)) ∧
        view.expiresAt.seconds = 300 := by
  have holds : HoldsAs (.ofLookup (holding 300)) vacant := holdsAs_of_holding (by decide) rfl
  have heard := (opens_and_hears (holding 300)).2 (.opened (fun _ => .refl _) _ _ _ _ _) holds
    run_buying rfl
  rw [holdDuration_holding (by decide)] at heard
  exact ⟨holds, heard, _, rfl, rfl⟩

/-- An office with one worker, at some time of day, that holds seats for some seconds. -/
def keeping (clock : Timestamp) (seconds : Nat) : Office :=
  opened { Setup.standard with hold := seconds * 1000000000 } clock (.of 1 4) (.fixed .success) [] none

/-- A talk with three seats is put on sale until some date, a user becomes known, and asks for two
of them. -/
def demand (ends : Timestamp) : List Move :=
  [.ask (.register ⟨.ofNat 1, "Talk", .epoch, ends, 3, ⟨2500⟩⟩), .turn (.caller 0),
    .turn (.caller 0),
    .write ⟨[(⟨1⟩, ⟨⟨1⟩, .ofNat 1, "Talk", .epoch, ends, 3, ⟨2500⟩, 1⟩)], 0⟩
      ⟨[(⟨7⟩, ⟨⟨7⟩, .ofNat 2, 1⟩)], 0⟩,
    .ask (.create (.ofNat 1) (.ofNat 2) 2), .turn (.caller 1), .turn (.caller 1)]

/-- The last second that there is. -/
def lastInstant : Timestamp := .ofSecond Timestamp.lastSecond (by decide)

/-- The longest hold that can be configured is no duration, the longest that is one leaves a
request without a date, and so does the usual one at the end of time. -/
theorem payment_hold_overflows :
    (∀ clock, ofSettings? (.ofLookup (holding Settings.max64)) clock = none) ∧
      (HoldsAs (.ofLookup (holding Settings.longestHold)) (keeping .epoch Settings.longestHold) ∧
        (keeping .epoch Settings.longestHold).canPlay (demand .epoch) = true ∧
        Keyed.get? 1 ((keeping .epoch Settings.longestHold).played (demand .epoch)).answers =
          some .undated) ∧
      HoldsAs (.ofLookup fun _ => none) (keeping lastInstant 300) ∧
        (keeping lastInstant 300).canPlay (demand lastInstant) = true ∧
        Keyed.get? 1 ((keeping lastInstant 300).played (demand lastInstant)).answers =
          some .undated := by
  refine ⟨fun clock => ofSettings?_of_lt clock ?_,
    ⟨holdsAs_of_holding (Nat.le_refl _) rfl, rfl, rfl⟩, rfl, rfl, rfl⟩
  rw [holdDuration_holding (Nat.le_refl _)]
  decide

end Office

end BoxOffice
