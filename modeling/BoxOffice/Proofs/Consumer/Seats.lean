import BoxOffice.Proofs.Bus.Following
import BoxOffice.Proofs.Office.Duties

/-!
# Consumers at queues

A consumer is at the queue that it has opened until it leaves it or the queue ends. It
opens a queue of its own, so that no two consumers come to be at one. What it does
elsewhere, and what anybody else does, puts a message on the queue at most, as long as
the outside uses the bus as others do.
-/

namespace BoxOffice

/-- The queue that a consumer is at. -/
def Consumer.Stage.queue? : Stage → Option Nat
  | .listening queue => some queue
  | .handling d _ _ => some d.queue
  | _ => none

namespace Office

/-- The consumer that a move is a step of. -/
def Move.consumer? : Move → Option Nat
  | .turn (.consumer k) | .overlook k => some k
  | _ => none

/-- When the bus is used from outside, no queue goes away, and what is done to a queue is
that a message is published, if anything. -/
def Turn.SparesQueue (i : Nat) (x : Turn) : Prop :=
  ∀ bus, x.move = .wire bus → x.before.bus.queues.length ≤ bus.queues.length ∧
    (i < x.before.bus.queues.length → Bus.Spares i x.before.bus bus)

section Steps

variable {first o o' : Office} {m : Move} {turns : List Turn} {i k : Nat} {c : Consumer}

/-! ### Steps of a consumer elsewhere -/

/-- A consumer that gets on is at the queue that it was at, at one that it has opened, or at
none. -/
theorem Acts.seat (acts : Acts o k c o') : ∃ stage, o'.stages = o.stages.set k stage ∧
    (stage.queue? = none ∨ stage.queue? = c.stage.queue? ∨
      stage.queue? = some o.bus.queues.length ∧ o.bus.queues.length < o'.bus.queues.length) := by
  cases acts with
  | opens at_ =>
      unfold openQueue
      split
      · exact ⟨_, stages_of_modify rfl, .inl rfl⟩
      · exact ⟨_, stages_of_modify rfl, .inr (.inr ⟨rfl, by simp [Bus.subscribe, setStage]⟩)⟩
  | @takes queue at_ d bus received =>
      refine ⟨_, stages_of_modify rfl, .inr (.inl ?_)⟩
      rw [at_]
      exact congrArg some (Bus.queue_of_receive received)
  | @handles d due deadline at_ ready =>
      refine ⟨.listening d.queue, stages_of_modify ?_, .inr (.inl (by rw [at_]; rfl))⟩
      show (o.handle c d.message).2.consumers.modify k _ = _
      rw [consumers_handle]
  | expires at_ => exact ⟨_, stages_of_modify rfl, .inr (.inl (by rw [at_]; rfl))⟩
  | _ => exact ⟨_, stages_of_modify rfl, .inl rfl⟩

/-- No queue goes away when a consumer gets on. -/
theorem Acts.length_queues (acts : Acts o k c o') :
    o.bus.queues.length ≤ o'.bus.queues.length := by
  cases acts with
  | leaves _ at_ => exact Nat.le_of_eq (Bus.length_modifyQueue _ _ _).symm
  | opens at_ =>
      unfold openQueue
      split
      · exact Nat.le_refl _
      · simp [Bus.subscribe, setStage]
  | finds _ received => exact Nat.le_of_eq (Bus.length_of_receive received).symm
  | takes _ received => exact Nat.le_of_eq (Bus.length_of_receive received).symm
  | @handles d due deadline at_ ready =>
      show o.bus.queues.length ≤ (((o.handle c d.message).2.bus).settle d _).2.queues.length
      rw [bus_handle, Bus.length_settle]
  | @expires d due deadline at_ _ _ => exact Nat.le_of_eq (Bus.length_settle o.bus d _).symm
  | _ => exact Nat.le_refl _

/-- What a consumer does elsewhere puts a message on a queue at most. -/
theorem Acts.spares (acts : Acts o k c o') (apart : c.stage.queue? ≠ some i)
    (known : i < o.bus.queues.length) : Bus.Spares i o.bus o'.bus := by
  have other {queue : Nat} (at_ : c.stage.queue? = some queue) : queue ≠ i := by
    rintro rfl
    exact apart at_
  cases acts with
  | leaves _ at_ => exact Bus.spares_unsubscribe (other (by rw [at_]; rfl)) o.bus
  | opens at_ =>
      unfold openQueue
      split
      · exact .refl i o.bus
      · exact Bus.spares_subscribe known _
  | finds at_ received => exact Bus.spares_of_receive (other (by rw [at_]; rfl)) received
  | takes at_ received => exact Bus.spares_of_receive (other (by rw [at_]; rfl)) received
  | @handles d due deadline at_ ready =>
      show Bus.Spares i o.bus (((o.handle c d.message).2.bus).settle d _).2
      rw [bus_handle]
      exact Bus.spares_settle (other (by rw [at_]; rfl)) _
  | @expires d due deadline at_ _ _ => exact Bus.spares_settle (other (by rw [at_]; rfl)) _
  | _ => exact .refl i o.bus

/-! ### Moves that are no step of a consumer -/

/-- How often each consumer puts a message back at most. -/
def limits (o : Office) : List Nat := o.consumers.map (·.maxRedeliveries)

theorem limits_of_modify {stage : Consumer.Stage}
    (consumers : o'.consumers = o.consumers.modify k fun c => { c with stage := stage }) :
    o'.limits = o.limits := by
  refine List.ext_getElem? fun n => ?_
  rw [limits, limits, consumers, List.getElem?_map, List.getElem?_map, List.getElem?_modify]
  cases o.consumers[n]? with
  | none => rfl
  | some c => by_cases own : k = n <;> simp [own]

/-- What others do to consumers and queues. -/
structure IsAside (i : Nat) (o o' : Office) : Prop where
  stages : o'.stages = o.stages
  limits : o'.limits = o.limits
  queues : o.bus.queues.length ≤ o'.bus.queues.length
  spares : i < o.bus.queues.length → Bus.Spares i o.bus o'.bus

/-- A message is published, or the bus is as it was. -/
def Sends (o : Office) (bus : Bus) : Prop :=
  bus = o.bus ∨ ∃ topic m, o.bus.publish topic m = .ok bus

theorem sends_publish (o : Office) (topic : String) (m : Message) :
    o.Sends (o.publish topic m).2.bus := by
  unfold publish
  split
  · rename_i published
    exact .inr ⟨topic, m, published⟩
  · exact .inl rfl

theorem sends_announce (o : Office) (c : EventChange) : o.Sends (o.announce c).2.bus :=
  sends_publish o.drawMessageId.2 _ _

theorem sends_announceUser (o : Office) (c : UserChange) : o.Sends (o.announceUser c).2.bus :=
  sends_publish o.drawMessageId.2 _ _

theorem IsAside.of_sends {bus : Bus} (wires : o'.wires = { o.wires with bus := bus })
    (sends : o.Sends bus) : IsAside i o o' := by
  have consumers := congrArg Wires.consumers wires
  have same : o'.bus = bus := congrArg Wires.bus wires
  constructor
  case stages =>
    simpa [Office.wires, Office.stages, Function.comp_def]
      using congrArg (List.map (·.stage)) consumers
  case limits =>
    simpa [Office.wires, Office.limits, Function.comp_def]
      using congrArg (List.map (·.maxRedeliveries)) consumers
  case queues =>
    rw [same]
    rcases sends with rest | ⟨topic, m, published⟩
    · rw [rest]
    · unfold Bus.publish at published
      split at published <;> cases published
      simp [Bus.route]
  case spares =>
    intro _
    rw [same]
    rcases sends with rest | ⟨topic, m, published⟩
    · rw [rest]
      exact .refl i o.bus
    · exact Bus.spares_publish published

/-- Whatever is no step of a consumer. -/
theorem isAside_of_rewires (rewires : Rewires o m o') (other : m.consumer? = none)
    (outside : Turn.SparesQueue i ⟨m, o, o'⟩) : IsAside i o o' := by
  cases rewires with
  | rests same => exact .of_sends same (.inl rfl)
  | @utters _ _ t c _ uttered => exact .of_sends uttered (sends_announce o c)
  | consumes => cases other
  | overlooks => cases other
  | written events users => exact ⟨rfl, rfl, Nat.le_refl _, fun _ => .refl i _⟩
  | wired bus =>
      obtain ⟨grows, spares⟩ := outside bus rfl
      exact ⟨rfl, rfl, grows, spares⟩
  | announced c => exact .of_sends (wires_announce o c) (sends_announce o c)
  | announcedUser c => exact .of_sends (wires_announceUser o c) (sends_announceUser o c)

/-- A move is a step of a consumer, which changes what it does, or is nothing to consumers. -/
theorem acts_or_isAside {news : Option EventChange} (talks : Talks o m o' news)
    (moved : m.apply o = some o') (outside : Turn.SparesQueue i ⟨m, o, o'⟩) :
    (∃ k c, m.consumer? = some k ∧ o.consumers[k]? = some c ∧ Acts o k c o') ∨
      m.consumer? = none ∧ IsAside i o o' := by
  cases own : m.consumer? with
  | none => exact .inr ⟨rfl, isAside_of_rewires (rewires_of_move talks moved) own outside⟩
  | some k =>
      refine .inl ⟨k, ?_⟩
      cases m with
      | turn a =>
          cases a with
          | consumer k' =>
              cases own
              obtain ⟨c, found, acts⟩ := acts_of_step moved
              exact ⟨c, rfl, found, acts⟩
          | _ => cases own
      | overlook k' =>
          cases own
          obtain ⟨c, found, -, acts⟩ := acts_of_overlook moved
          exact ⟨c, rfl, found, acts⟩
      | _ => cases own

/-! ### Runs -/

/-- Every consumer is at a queue that there is, or at none. -/
def IsSeated (o : Office) : Prop :=
  ∀ stage ∈ o.stages, ∀ queue, stage.queue? = some queue → queue < o.bus.queues.length

theorem IsSeated.move {news : Option EventChange} (seated : o.IsSeated) (talks : Talks o m o' news)
    (moved : m.apply o = some o') (outside : Turn.SparesQueue i ⟨m, o, o'⟩) : o'.IsSeated := by
  intro stage sits queue at_
  rcases acts_or_isAside talks moved outside with ⟨k, c, -, found, acts⟩ | ⟨-, quiet⟩
  · obtain ⟨stage', seats, seat⟩ := acts.seat
    rw [seats] at sits
    rcases List.mem_or_eq_of_mem_set sits with old | rfl
    · exact Nat.lt_of_lt_of_le (seated stage old queue at_) acts.length_queues
    · rcases seat with none_ | stays | ⟨new, grows⟩
      · cases none_.symm.trans at_
      · have member : c.stage ∈ o.stages := List.mem_map_of_mem (List.mem_of_getElem? found)
        exact Nat.lt_of_lt_of_le (seated _ member queue (stays.symm.trans at_)) acts.length_queues
      · obtain rfl := Option.some.inj (new.symm.trans at_)
        exact grows
  · exact Nat.lt_of_lt_of_le (seated stage (quiet.stages ▸ sits) queue at_) quiet.queues

theorem Run.isSeated (run : Run first turns o) (new : IsNew first)
    (idle : ∀ c ∈ first.consumers, c.stage = .subscribing)
    (outside : ∀ y ∈ turns, y.SparesQueue i) : o.IsSeated := by
  induction run with
  | start =>
      intro stage sits queue at_
      obtain ⟨c, member, rfl⟩ := List.mem_map.mp sits
      rw [idle c member] at at_
      cases at_
  | next run moved ih =>
      obtain ⟨news, talks⟩ := run.talks new moved
      exact (ih fun y there => outside y (List.mem_append_left _ there)).move talks moved
        (outside _ List.mem_concat_self)

end Steps

end Office

end BoxOffice
