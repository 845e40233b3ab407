import BoxOffice.Proofs.Bus.Accounting

/-!
# Following one queue

A lane follows one queue of a bus, whatever goes on at the others. What goes on there
comes to one of two things for the queue: nothing, or a message is published. So the
lane of a queue tells all about it, as long as each use of the queue itself is one that
a lane has.
-/

namespace BoxOffice.Bus

/-- A lane tells all that has gone on at a queue. -/
def Lane.Follows (l : Lane) (i : Nat) (b : Bus) : Prop :=
  ∃ q, b.queues[i]? = some q ∧ l.Records q ∧ l.IsSound b.published

/-- The lane after a message was published to a topic, if there is one. -/
def Lane.routedBy (l : Lane) : Option (String × Message) → Lane
  | none => l
  | some (topic, m) => l.route topic m

namespace Lane

@[simp] theorem routedBy_subscription (l : Lane) (sent : Option (String × Message)) :
    (l.routedBy sent).subscription = l.subscription := by
  unfold routedBy route
  repeat' split
  all_goals rfl

@[simp] theorem routedBy_taken (l : Lane) (sent : Option (String × Message)) :
    (l.routedBy sent).taken = l.taken := by
  unfold routedBy route
  repeat' split
  all_goals rfl

@[simp] theorem routedBy_held (l : Lane) (sent : Option (String × Message)) :
    (l.routedBy sent).held = l.held := by
  unfold routedBy route
  repeat' split
  all_goals rfl

@[simp] theorem routedBy_ended (l : Lane) (sent : Option (String × Message)) :
    (l.routedBy sent).ended = l.ended := by
  unfold routedBy route
  repeat' split
  all_goals rfl

end Lane

/-- To a queue, what has gone on at the bus is that a message was published, if anything. -/
def Spares (i : Nat) (b b' : Bus) : Prop :=
  ∃ sent, b'.queues[i]? = (b.routed sent).queues[i]? ∧ b'.published = (b.routed sent).published

section Elsewhere

variable {b b' : Bus} {i j : Nat}

theorem spares_of_eq (queue : b'.queues[i]? = b.queues[i]?) (published : b'.published = b.published) :
    Spares i b b' :=
  ⟨none, queue, published⟩

theorem Spares.refl (i : Nat) (b : Bus) : Spares i b b := spares_of_eq rfl rfl

/-- A queue that is changed is none of the others. -/
theorem getElem?_modifyQueue (apart : j ≠ i) (b : Bus) (f : Queue → Queue) :
    (b.modifyQueue j f).queues[i]? = b.queues[i]? :=
  List.getElem?_modify_ne f b.queues apart

theorem length_modifyQueue (b : Bus) (j : Nat) (f : Queue → Queue) :
    (b.modifyQueue j f).queues.length = b.queues.length :=
  List.length_modify f b.queues j

/-! ### Each use of the bus -/

theorem spares_subscribe (known : i < b.queues.length) (s : Subscription) :
    Spares i b (b.subscribe s).2 :=
  spares_of_eq (List.getElem?_append_left known) rfl

theorem spares_publish {topic : String} {m : Message} (published : b.publish topic m = .ok b') :
    Spares i b b' := by
  unfold publish at published
  split at published <;> cases published
  exact ⟨some (topic, m), rfl, rfl⟩

theorem spares_of_receive {answer : Received} (apart : j ≠ i)
    (received : b.receive j = (answer, b')) : Spares i b b' := by
  unfold receive at received
  split at received
  · cases received
    exact .refl i b
  · split at received
    · split at received <;> cases received
      · exact .refl i b
      · exact spares_of_eq (getElem?_modifyQueue apart b _) rfl
    · cases received
      exact spares_of_eq (getElem?_modifyQueue apart b _) rfl

/-- A message comes out of the queue that is asked. -/
theorem queue_of_receive {d : Delivery} (received : b.receive j = (.delivery d, b')) :
    d.queue = j := by
  unfold receive at received
  split at received
  · cases received
  · split at received
    · split at received <;> cases received
      rfl
    · cases received

theorem spares_unsubscribe (apart : j ≠ i) (b : Bus) : Spares i b (b.unsubscribe j) :=
  spares_of_eq (getElem?_modifyQueue apart b _) rfl

/-- A message of another queue is published again at most. -/
theorem spares_settle {d : Delivery} (apart : d.queue ≠ i) (how : Disposition) :
    Spares i b (b.settle d how).2 := by
  have released := getElem?_modifyQueue apart b (·.release d.message)
  unfold settle
  split
  · exact .refl i b
  · rename_i q _
    cases how with
    | ack => exact spares_of_eq released rfl
    | requeue =>
        simp only
        split
        · exact spares_of_eq ((getElem?_modifyQueue apart _ _).trans released) rfl
        · exact spares_of_eq released rfl
    | reject reason =>
        simp only
        split
        · exact spares_of_eq released rfl
        · rename_i topic _
          refine ⟨some (topic, d.message), ?_, rfl⟩
          simp only [route, routed, List.getElem?_map]
          exact congrArg _ released

/-! ### How many queues there are -/

theorem length_of_receive {answer : Received} (received : b.receive j = (answer, b')) :
    b'.queues.length = b.queues.length := by
  unfold receive at received
  split at received
  · cases received
    rfl
  · split at received
    · split at received <;> cases received
      · rfl
      · exact length_modifyQueue b j _
    · cases received
      exact length_modifyQueue b j _

theorem length_settle (b : Bus) (d : Delivery) (how : Disposition) :
    (b.settle d how).2.queues.length = b.queues.length := by
  have released := length_modifyQueue b d.queue (·.release d.message)
  unfold settle
  split
  · rfl
  · cases how with
    | ack => exact released
    | requeue =>
        simp only
        split
        · exact (length_modifyQueue _ d.queue _).trans released
        · exact released
    | reject reason =>
        simp only
        split
        · exact released
        · exact (List.length_map _).trans released

end Elsewhere

/-! ### The queue itself -/

namespace Lane.Follows

variable {b b' : Bus} {i : Nat} {l : Lane} {c : Copy}

/-- A lane begins where a queue is opened. -/
theorem subscribe (b : Bus) (s : Subscription) :
    (Lane.ofSubscription s b.published.length).Follows b.queues.length (b.subscribe s).2 :=
  ⟨_, List.getElem?_concat_length, .ofSubscription s _, .ofSubscription s _⟩

theorem isSound (follows : l.Follows i b) : l.IsSound b.published := by
  obtain ⟨-, -, -, sound⟩ := follows
  exact sound

theorem routed (follows : l.Follows i b) (sent : Option (String × Message)) :
    (l.routedBy sent).Follows i (b.routed sent) := by
  cases sent with
  | none => exact follows
  | some sent =>
      obtain ⟨topic, m⟩ := sent
      obtain ⟨q, found, records, sound⟩ := follows
      refine ⟨if q.takes topic m then q.push m else q, ?_, records.route topic m, sound.route topic m⟩
      simp only [Bus.routed, Bus.route, List.getElem?_map, found, Option.map_some]

/-- What goes on elsewhere puts a message on the queue at most. -/
theorem spares (follows : l.Follows i b) (spares : Spares i b b') :
    ∃ sent, (l.routedBy sent).Follows i b' := by
  obtain ⟨sent, queue, published⟩ := spares
  obtain ⟨q, found, records, sound⟩ := follows.routed sent
  exact ⟨sent, q, queue.trans found, records, published ▸ sound⟩

/-- The message that waits first is the one that comes out. -/
theorem receive (follows : l.Follows i b) {rest : List Copy} (waiting : l.waiting = c :: rest) :
    ∃ b', b.receive i = (.delivery ⟨i, c.message⟩, b') ∧ (l.take c.message).Follows i b' := by
  obtain ⟨q, found, records, sound⟩ := follows
  refine ⟨_, receive_of_waiting found records sound waiting, _, ?_, records.take waiting,
    sound.take waiting⟩
  exact (List.getElem?_modify_eq _ i b.queues).trans (congrArg _ found)

/-- Nothing comes out of a queue in which nothing waits, and it goes on while its listener
is there. -/
theorem receive_empty (follows : l.Follows i b) (staying : l.ended = none)
    (waiting : l.waiting = []) : b.receive i = (.empty, b) := by
  obtain ⟨q, found, records, -⟩ := follows
  have empty : q.waiting = [] := by rw [records.waiting, waiting]; rfl
  have running : q.isRunning = true := by
    simp [Queue.isRunning, records.live, records.listened, staying]
  simp [Bus.receive, found, empty, running]

theorem settle (follows : l.Follows i b) (held : c ∈ l.held) (how : Disposition) :
    ((l.settle c how).routedBy (l.forwards c how)).Follows i (b.settle ⟨i, c.message⟩ how).2 := by
  obtain ⟨q, found, records, sound⟩ := follows
  rw [settle_eq found records]
  refine routed (b := { b with
    queues := b.queues.modify i (·.settle c.message how), settled := _, deadLetters := _ })
    ⟨q.settle c.message how, ?_, records.settle held how, sound.settle held how⟩ _
  exact (List.getElem?_modify_eq _ i b.queues).trans (congrArg _ found)

theorem leave (follows : l.Follows i b) :
    (l.leave b.published.length).Follows i (b.unsubscribe i) := by
  obtain ⟨q, found, records, sound⟩ := follows
  refine ⟨q.abandoned, ?_, records.leave sound.left _, sound.leave⟩
  exact (List.getElem?_modify_eq _ i b.queues).trans (congrArg _ found)

end Lane.Follows

end BoxOffice.Bus
