import BoxOffice.Bus

/-!
# The messages on a bus

`Bus.messages` are all messages that a bus knows of: those that were published and
those that wait in a queue or were taken out of one. No operation of the bus brings
in any other message than the one that it is given, and that one only as it is or
handed back once more.
-/

namespace BoxOffice.Bus

/-- The messages of a queue that are not settled. -/
def Queue.messages (q : Queue) : List Message := q.waiting ++ q.held

/-- The messages that were published and those in the queues. -/
def messages (b : Bus) : List Message :=
  b.published.map (·.2) ++ b.queues.flatMap (·.messages)

variable {b : Bus} {m : Message}

theorem mem_messages : m ∈ b.messages ↔
    (∃ topic, (topic, m) ∈ b.published) ∨ ∃ q ∈ b.queues, m ∈ q.messages := by
  simp [messages]

/-- A message on a bus after one of its queues was changed. -/
theorem mem_modifyQueue {id : Nat} {f : Queue → Queue}
    (member : m ∈ (b.modifyQueue id f).messages) :
    m ∈ b.messages ∨ ∃ q, b.queues[id]? = some q ∧ m ∈ (f q).messages := by
  rcases mem_messages.mp member with published | ⟨q, queue, member⟩
  · exact .inl (mem_messages.mpr (.inl published))
  · obtain ⟨i, at_⟩ := List.mem_iff_getElem?.mp queue
    simp only [modifyQueue, List.getElem?_modify] at at_
    obtain ⟨q', found, same⟩ := Option.map_eq_some_iff.mp at_
    split at same
    · rename_i own
      subst same
      exact .inr ⟨q', own ▸ found, member⟩
    · subst same
      exact .inl (mem_messages.mpr (.inr ⟨q', List.mem_of_getElem? found, member⟩))

theorem mem_of_queue {id : Nat} {q : Queue} (found : b.queues[id]? = some q)
    (member : m ∈ q.messages) : m ∈ b.messages :=
  mem_messages.mpr (.inr ⟨q, List.mem_of_getElem? found, member⟩)

theorem mem_subscribe {s : Subscription} (member : m ∈ (b.subscribe s).2.messages) :
    m ∈ b.messages := by
  simpa [messages, subscribe, Queue.ofSubscription, Queue.messages] using member

theorem mem_unsubscribe {id : Nat} (member : m ∈ (b.unsubscribe id).messages) :
    m ∈ b.messages := by
  rcases mem_modifyQueue member with same | ⟨q, found, member⟩
  · exact same
  · exact mem_of_queue found (List.mem_append_right _ (by
      simpa [Queue.abandoned, Queue.messages] using member))

theorem mem_route {topic : String} {m' : Message} (member : m ∈ (b.route topic m').messages) :
    m ∈ b.messages ∨ m = m' := by
  rcases mem_messages.mp member with ⟨topic', published⟩ | ⟨q, queue, member⟩
  · rcases List.mem_append.mp published with before | new
    · exact .inl (mem_messages.mpr (.inl ⟨topic', before⟩))
    · exact .inr (Prod.mk.inj (List.mem_singleton.mp new)).2
  · obtain ⟨q', listed, rfl⟩ := List.mem_map.mp queue
    have kept (member : m ∈ q'.messages) : m ∈ b.messages :=
      mem_messages.mpr (.inr ⟨q', listed, member⟩)
    split at member
    · simp only [Queue.messages, Queue.push, List.mem_append, List.mem_singleton] at member kept
      rcases member with (waiting | new) | held
      · exact .inl (kept (.inl waiting))
      · exact .inr new
      · exact .inl (kept (.inr held))
    · exact .inl (kept member)

theorem mem_publish {topic : String} {m' : Message} {b' : Bus}
    (published : b.publish topic m' = .ok b') (member : m ∈ b'.messages) :
    m ∈ b.messages ∨ m = m' := by
  unfold publish at published
  split at published
  · cases published
  · cases published
    exact mem_route member

/-- Taking a message out brings in none, and the one that is taken out was there. -/
theorem mem_receive {id : Nat} {received : Received} {b' : Bus}
    (taken : b.receive id = (received, b')) :
    (∀ m ∈ b'.messages, m ∈ b.messages) ∧ ∀ d, received = .delivery d → d.message ∈ b.messages := by
  unfold receive at taken
  split at taken
  · cases taken
    exact ⟨fun _ member => member, by simp⟩
  · rename_i q found
    split at taken
    · split at taken
      · cases taken
        exact ⟨fun _ member => member, by simp⟩
      · rename_i first rest waiting
        cases taken
        refine ⟨fun m member => ?_, fun d same => ?_⟩
        · rcases mem_modifyQueue member with same | ⟨q', found', member⟩
          · exact same
          · cases found.symm.trans found'
            refine mem_of_queue found ?_
            simp only [Queue.messages, waiting, List.mem_append, List.mem_cons] at member ⊢
            rcases member with later | held | new
            · exact .inl (.inr later)
            · exact .inr held
            · exact .inl (.inl (new.resolve_right List.not_mem_nil))
        · cases same
          exact mem_of_queue found (by simp [Queue.messages, waiting])
    · cases taken
      exact ⟨fun m => mem_unsubscribe, by simp⟩

theorem mem_release {id : Nat} {m' : Message}
    (member : m ∈ (b.modifyQueue id (·.release m')).messages) : m ∈ b.messages := by
  rcases mem_modifyQueue member with same | ⟨q, found, member⟩
  · exact same
  · refine mem_of_queue found ?_
    rcases List.mem_append.mp member with waiting | held
    · exact List.mem_append_left _ waiting
    · exact List.mem_append_right _ (List.mem_of_mem_erase held)

/-- Settling a message brings in that message at most, handed back once more or as it is. -/
theorem mem_settle {d : Delivery} {how : Disposition} (member : m ∈ (b.settle d how).2.messages) :
    m ∈ b.messages ∨ m = d.message ∨ m = d.message.redelivered := by
  unfold settle at member
  split at member
  · exact .inl member
  · rename_i q found
    have noted (member : m ∈ (Bus.modifyQueue { b with settled := b.settled ++
        [⟨q.subscription.group, d.message, how⟩] } d.queue (·.release d.message)).messages) :
        m ∈ b.messages := mem_release (b := { b with settled := _ }) member
    cases how with
    | ack => exact .inl (noted member)
    | requeue =>
        simp only at member
        split at member
        · rcases mem_modifyQueue member with same | ⟨q', found', member⟩
          · exact .inl (noted same)
          · simp only [Queue.messages, Queue.push, List.mem_append, List.mem_singleton] at member
            rcases member with (waiting | new) | held
            · exact .inl (noted (mem_of_queue found' (List.mem_append_left _ waiting)))
            · exact .inr (.inr new)
            · exact .inl (noted (mem_of_queue found' (List.mem_append_right _ held)))
        · exact .inl (noted member)
    | reject reason =>
        simp only at member
        split at member
        · exact .inl (noted member)
        · rcases mem_route member with same | new
          · exact .inl (noted same)
          · exact .inr (.inl new)

/-- A decision is noted once, if the queue is known. -/
theorem settled_settle (b : Bus) (d : Delivery) (how : Disposition) :
    (b.settle d how).2.settled = b.settled ∨
      ∃ group, (b.settle d how).2.settled = b.settled ++ [⟨group, d.message, how⟩] := by
  unfold settle
  split
  · exact .inl rfl
  · rename_i q found
    refine .inr ⟨q.subscription.group, ?_⟩
    cases how with
    | ack => rfl
    | requeue =>
        simp only
        split <;> rfl
    | reject reason =>
        simp only
        split <;> rfl

/-- What is noted is this decision on this message. -/
theorem eq_of_mem_settled {b : Bus} {d : Delivery} {how : Disposition} {noted : Settled}
    (member : noted ∈ (b.settle d how).2.settled.drop b.settled.length) :
    noted.message = d.message ∧ noted.disposition = how := by
  rcases settled_settle b d how with same | ⟨group, more⟩
  · rw [same, List.drop_length] at member
    cases member
  · rw [more, List.drop_left] at member
    obtain rfl := List.mem_singleton.mp member
    exact ⟨rfl, rfl⟩

end BoxOffice.Bus
