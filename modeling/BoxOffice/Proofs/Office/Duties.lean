import BoxOffice.Proofs.Office.Conveying
import BoxOffice.Proofs.Office.Hours

/-!
# What consumers have in hand

A consumer that has taken a message settles it in its next turn, whether it was told to
stop meanwhile or not. It stops only with nothing in hand, and then for good. `Tends`
says what a step of a consumer comes to in this respect; nobody else's step changes what
a consumer does.
-/

namespace BoxOffice.Office

/-- What each consumer does. -/
def stages (o : Office) : List Consumer.Stage := o.consumers.map (·.stage)

/-- A consumer has a message in hand. -/
def HasInHand (o : Office) (i : Nat) (d : Bus.Delivery) : Prop :=
  ∃ due deadline, o.stages[i]? = some (.handling d due deadline)

/-- A consumer settles the message that it has in hand. -/
structure Turn.Settles (x : Turn) (i : Nat) (d : Bus.Delivery) : Prop where
  moved : x.move = .turn (.consumer i)
  held : x.before.HasInHand i d
  bus : ∃ disposition, x.after.bus = (x.before.bus.settle d disposition).2
  free : x.after.stages[i]? = some (.listening d.queue)

section Stages

variable {o o' : Office} {i : Nat}

theorem stages_of_consumers (same : o'.consumers = o.consumers) : o'.stages = o.stages :=
  congrArg (List.map Consumer.stage) same

theorem stages_of_modify {stage : Consumer.Stage}
    (consumers : o'.consumers = o.consumers.modify i fun c => { c with stage := stage }) :
    o'.stages = o.stages.set i stage := by
  refine List.ext_getElem? fun j => ?_
  rw [stages, stages, consumers, List.getElem?_map, List.getElem?_modify, List.getElem?_set]
  by_cases own : i = j
  · subst own
    cases found : o.consumers[i]? with
    | none => simp [List.getElem?_eq_none_iff.mp found]
    | some c => simp [(List.getElem?_eq_some_iff.mp found).1]
  · simp [own]

theorem stages_tellConsumers (o : Office) : o.tellConsumers.stages = o.stages := by
  simp [stages, tellConsumers]

/-! ### Turns of consumers -/

/-- What a step of a consumer comes to. -/
inductive Tends (o : Office) (i : Nat) (m : Move) (o' : Office) : Prop
  /-- It has no message in hand, and may come to have one. -/
  | looks {stage stage' : Consumer.Stage} (at_ : o.stages[i]? = some stage)
      (free : stage.message? = none) (stays : stage ≠ .stopped)
      (stages : o'.stages = o.stages.set i stage') : Tends o i m o'
  | settles {d : Bus.Delivery} {due deadline : Nat} {disposition : Bus.Disposition}
      (turn : m = .turn (.consumer i)) (at_ : o.stages[i]? = some (.handling d due deadline))
      (stages : o'.stages = o.stages.set i (.listening d.queue))
      (bus : o'.bus = (o.bus.settle d disposition).2) : Tends o i m o'

theorem tends_of_acts {c : Consumer} {m : Move} (found : o.consumers[i]? = some c)
    (turn : m = .turn (.consumer i) ∨ c.stage.message? = none) (acts : Acts o i c o') :
    Tends o i m o' := by
  have at_ : o.stages[i]? = some c.stage := by
    rw [stages, List.getElem?_map, found, Option.map_some]
  have settles {d : Bus.Delivery} {due deadline : Nat} {o₁ : Office} (outcome : Consumer.Outcome)
      (stage : c.stage = .handling d due deadline) (bus : o₁.bus = o.bus)
      (consumers : o₁.consumers = o.consumers) :
      Tends o i m ((o₁.settleDelivery c d outcome).setStage i (.listening d.queue)) := by
    have settled : ((o₁.settleDelivery c d outcome).setStage i (.listening d.queue)).bus =
        (o.bus.settle d (Consumer.verdict c.maxRedeliveries d.message outcome).1).2 := by
      rw [← bus]
      rfl
    have own : m = .turn (.consumer i) := by
      rcases turn with own | free
      · exact own
      · simp [stage, Consumer.Stage.message?] at free
    refine .settles own (stage ▸ at_) (stages_of_modify ?_) settled
    rw [← consumers]
    rfl
  obtain ⟨stage', consumers⟩ := acts.consumers
  have stages := stages_of_modify consumers
  cases acts with
  | handles stage ready => exact settles _ stage (bus_handle o c _) (consumers_handle o c _)
  | expires stage => exact settles _ stage rfl rfl
  | stops told stage =>
      rcases stage with stage | ⟨due, stage⟩ <;> exact .looks at_ (by rw [stage]; rfl) (by simp [stage]) stages
  | leaves told stage => exact .looks at_ (by rw [stage]; rfl) (by simp [stage]) stages
  | opens stage => exact .looks at_ (by rw [stage]; rfl) (by simp [stage]) stages
  | finds stage => exact .looks at_ (by rw [stage]; rfl) (by simp [stage]) stages
  | takes stage => exact .looks at_ (by rw [stage]; rfl) (by simp [stage]) stages
  | returns stage => exact .looks at_ (by rw [stage]; rfl) (by simp [stage]) stages

/-! ### Moves -/

theorem stages_stepApplication (step : o.stepApplication = some o') : o'.stages = o.stages := by
  obtain ⟨_, hours | hours⟩ := hours_stepApplication step
  · exact stages_of_consumers (congrArg Hours.consumers hours)
  · exact (stages_of_consumers (congrArg Hours.consumers hours)).trans (stages_tellConsumers o)

theorem stages_hurryApplication (step : o.hurryApplication = some o') : o'.stages = o.stages := by
  obtain ⟨_, hours⟩ := hours_hurryApplication step
  exact stages_of_consumers (congrArg Hours.consumers hours)

/-- What consumers do is changed by their own steps alone. -/
theorem stages_of_move {m : Move} (moved : m.apply o = some o') :
    o'.stages = o.stages ∨ ∃ i, Tends o i m o' := by
  cases paces_of_move moved with
  | rests same => exact .inl (stages_of_consumers (congrArg Hours.consumers same))
  | passes => exact .inl rfl
  | consumes found acts => exact .inr ⟨_, tends_of_acts found (.inl rfl) acts⟩
  | overlooks found free acts => exact .inr ⟨_, tends_of_acts found (.inr free) acts⟩
  | governs step => exact .inl (stages_stepApplication step)
  | hurries step => exact .inl (stages_hurryApplication step)
  | tells _ hours =>
      have told : o'.stages = o.tellConsumers.stages :=
        stages_of_consumers (congrArg Hours.consumers hours)
      exact .inl (told.trans (stages_tellConsumers o))
  | signals _ _ hours => exact .inl (stages_of_consumers (congrArg Hours.consumers hours))

theorem length_stages_of_move {m : Move} (moved : m.apply o = some o') :
    o'.stages.length = o.stages.length := by
  rcases stages_of_move moved with same | ⟨i, tends⟩
  · rw [same]
  · cases tends with
    | looks _ _ _ stages => rw [stages, List.length_set]
    | settles _ _ stages => rw [stages, List.length_set]

/-- A consumer that has stopped has stopped for good. -/
theorem stopped_of_move {m : Move} (moved : m.apply o = some o')
    (stopped : o.stages[i]? = some .stopped) : o'.stages[i]? = some .stopped := by
  rcases stages_of_move moved with same | ⟨j, tends⟩
  · rw [same, stopped]
  · have other {stage stage' : Consumer.Stage} (at_ : o.stages[j]? = some stage)
        (stays : stage ≠ .stopped) (stages : o'.stages = o.stages.set j stage') :
        o'.stages[i]? = some .stopped := by
      have apart : j ≠ i := by
        rintro rfl
        exact stays (Option.some.inj (at_.symm.trans stopped))
      rw [stages, List.getElem?_set_ne apart, stopped]
    cases tends with
    | looks at_ _ stays stages => exact other at_ stays stages
    | settles _ at_ stages => exact other at_ nofun stages

/-- What a consumer has in hand it keeps, or settles in its turn. -/
theorem holds_of_move {m : Move} {d : Bus.Delivery} (moved : m.apply o = some o')
    (holds : o.HasInHand i d) : o'.HasInHand i d ∨ Turn.Settles ⟨m, o, o'⟩ i d := by
  obtain ⟨due, deadline, held⟩ := holds
  rcases stages_of_move moved with same | ⟨j, tends⟩
  · exact .inl ⟨due, deadline, same ▸ held⟩
  · by_cases own : j = i
    · subst own
      cases tends with
      | looks at_ free =>
          cases held.symm.trans at_
          cases free
      | settles turn at_ stages bus =>
          cases held.symm.trans at_
          refine .inr ⟨turn, ⟨_, _, held⟩, ⟨_, bus⟩, ?_⟩
          rw [stages, List.getElem?_set_self (List.getElem?_eq_some_iff.mp held).1]
    · refine .inl ⟨due, deadline, ?_⟩
      cases tends with
      | looks _ _ _ stages => rw [stages, List.getElem?_set_ne own, held]
      | settles _ _ stages => rw [stages, List.getElem?_set_ne own, held]

end Stages

/-- What a consumer has in hand at any time, it still has or has settled since. -/
theorem Run.settles {first o : Office} {turns : List Turn} {i : Nat} {d : Bus.Delivery}
    (run : Run first turns o) (holds : first.HasInHand i d) :
    o.HasInHand i d ∨ ∃ x ∈ turns, x.Settles i d := by
  induction run with
  | start => exact .inl holds
  | @next turns o o' m run moved ih =>
      rcases ih with holds | ⟨x, member, settles⟩
      · rcases holds_of_move moved holds with holds | settles
        · exact .inl holds
        · exact .inr ⟨_, List.mem_concat_self, settles⟩
      · exact .inr ⟨x, List.mem_append_left _ member, settles⟩

end BoxOffice.Office
