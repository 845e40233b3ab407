import BoxOffice.Office.Consuming

/-!
# What a consumer does in a turn

A consumer with nothing in its hands opens its queue, takes a message out of it or finds it
ended, comes back from a pause, or stops. One that has a message in its hands settles it and
does nothing else. `Acts` lists these steps with all that they change.
-/

namespace BoxOffice

/-- The message that is in a consumer's hands. -/
def Consumer.Stage.message? : Consumer.Stage → Option Message
  | .handling d _ _ => some d.message
  | _ => none

namespace Office

/-- What a consumer does. -/
inductive Acts (o : Office) (i : Nat) (c : Consumer) : Office → Prop
  /-- It was told to stop, and does so. -/
  | stops (told : c.told = true) (at_ : c.stage = .subscribing ∨ ∃ due, c.stage = .pausing due) :
      Acts o i c (o.setStage i .stopped)
  /-- It was told to stop, and leaves its queue. -/
  | leaves (told : c.told = true) {queue : Nat} (at_ : c.stage = .listening queue) :
      Acts o i c ({ o with bus := o.bus.unsubscribe queue }.setStage i .stopped)
  | opens (at_ : c.stage = .subscribing) : Acts o i c (o.openQueue i c)
  | finds {queue : Nat} (at_ : c.stage = .listening queue) {bus : Bus}
      (received : o.bus.receive queue = (.ended, bus)) :
      Acts o i c ({ o with bus := bus }.setStage i (.pausing (o.now + c.retryDelay.ticks)))
  | takes {queue : Nat} (at_ : c.stage = .listening queue) {d : Bus.Delivery} {bus : Bus}
      (received : o.bus.receive queue = (.delivery d, bus)) :
      Acts o i c ({ o with bus := bus }.setStage i
        (.handling d (o.now + (o.stall c d.message).ticks) (o.now + c.timeout.ticks)))
  | returns {due : Nat} (at_ : c.stage = .pausing due) (past : due ≤ o.now) :
      Acts o i c (o.setStage i .subscribing)
  /-- Its handler is ready with the message. -/
  | handles {d : Bus.Delivery} {due deadline : Nat} (at_ : c.stage = .handling d due deadline)
      (ready : due ≤ o.now) :
      Acts o i c (((o.handle c d.message).2.settleDelivery c d (o.handle c d.message).1).setStage i
        (.listening d.queue))
  /-- Its handler takes too long. -/
  | expires {d : Bus.Delivery} {due deadline : Nat} (at_ : c.stage = .handling d due deadline)
      (busy : o.now < due) (late : deadline ≤ o.now) :
      Acts o i c ((o.settleDelivery c d .timedOut).setStage i (.listening d.queue))

section Turns

variable {o o' : Office} {i : Nat} {c : Consumer}

theorem acts_of_lookOut (looked : o.lookOut i c = some o') : Acts o i c o' := by
  cases stage : c.stage with
  | subscribing =>
      simp only [lookOut, stage] at looked
      cases looked
      exact .opens stage
  | listening queue =>
      simp only [lookOut, stage, takeMessage] at looked
      split at looked <;> rename_i received <;> cases looked
      · exact .finds stage received
      · exact .takes stage received
  | handling d due deadline => simp [lookOut, stage] at looked
  | pausing due =>
      simp only [lookOut, stage] at looked
      split at looked <;> rename_i past <;> cases looked
      exact .returns stage past
  | stopped => simp [lookOut, stage] at looked

theorem acts_of_stop (told : c.told = true) (stops : o.stopConsumer i c = some o') :
    Acts o i c o' := by
  cases stage : c.stage with
  | subscribing =>
      simp only [stopConsumer, stage] at stops
      cases stops
      exact .stops told (.inl stage)
  | listening queue =>
      simp only [stopConsumer, stage] at stops
      cases stops
      exact .leaves told stage
  | handling d due deadline => simp [stopConsumer, stage] at stops
  | pausing due =>
      simp only [stopConsumer, stage] at stops
      cases stops
      exact .stops told (.inr ⟨due, stage⟩)
  | stopped => simp [stopConsumer, stage] at stops

theorem acts_of_conclude {d : Bus.Delivery} {due deadline : Nat}
    (at_ : c.stage = .handling d due deadline)
    (concluded : o.concludeDelivery i c d due deadline = some o') : Acts o i c o' := by
  unfold concludeDelivery at concluded
  split at concluded
  · rename_i ready
    cases concluded
    exact .handles at_ ready
  · rename_i busy
    split at concluded <;> rename_i late <;> cases concluded
    exact .expires at_ (Nat.lt_of_not_le busy) late

/-- Every step of a consumer is one of these. -/
theorem acts_of_step (step : o.stepConsumer i = some o') :
    ∃ c, o.consumers[i]? = some c ∧ Acts o i c o' := by
  obtain ⟨c, found, step⟩ := Option.bind_eq_some_iff.mp step
  refine ⟨c, found, ?_⟩
  split at step
  · rename_i at_
    exact acts_of_conclude at_ step
  · split at step
    · rename_i told
      exact acts_of_stop told step
    · exact acts_of_lookOut step

/-- A consumer that overlooks the word to stop has nothing in its hands. -/
theorem acts_of_overlook (overlooked : o.overlook i = some o') :
    ∃ c, o.consumers[i]? = some c ∧ c.stage.message? = none ∧ Acts o i c o' := by
  obtain ⟨c, found, overlooked⟩ := Option.bind_eq_some_iff.mp overlooked
  split at overlooked
  · refine ⟨c, found, ?_, acts_of_lookOut overlooked⟩
    cases stage : c.stage with
    | handling d due deadline => simp [lookOut, stage] at overlooked
    | _ => rfl
  · cases overlooked

/-! ### What handling leaves alone -/

theorem bus_handle (o : Office) (c : Consumer) (m : Message) : (o.handle c m).2.bus = o.bus := by
  unfold handle
  split <;> rfl

theorem consumers_handle (o : Office) (c : Consumer) (m : Message) :
    (o.handle c m).2.consumers = o.consumers := by
  unfold handle
  split <;> rfl

/-- A step of a consumer has nothing to do with other consumers, and changes of its own only
what it does. -/
theorem Acts.consumers (acts : Acts o i c o') : ∃ stage,
    o'.consumers = o.consumers.modify i fun c => { c with stage := stage } := by
  cases acts with
  | opens at_ =>
      unfold openQueue
      split <;> exact ⟨_, rfl⟩
  | @handles d due deadline at_ ready =>
      refine ⟨.listening d.queue, ?_⟩
      show (o.handle c d.message).2.consumers.modify i _ = _
      rw [consumers_handle]
  | _ => exact ⟨_, rfl⟩

end Turns

end Office

end BoxOffice
