import BoxOffice.Proofs.Ledger.Reachable

/-!
# Overlapping calls have an order

However calls overlap, there is an order of those that are over in which they
could have come one after another, each with the ledger for itself, with the
answers that they gave and the rows that there are. A call that was over before
another one began comes before it. Calls that were refused for a cause that may
pass and calls that were given up have no part in it.

Most calls stand in the order where they are over. The exceptions are look-ups
that are bound to an answer before they give it: they stand where the answer was
right. So the proof keeps a line of calls with two kinds of entries, the calls
that are over and the look-ups that are bound, and every step adds to the end of
the line, turns a bound look-up into one that is over, or strikes one out that
is given up. A look-up leaves the books as they are, so striking it out does no
harm.
-/

namespace BoxOffice.Ledger

/-! ### One call after another -/

/-- The calls come one after another, each with the ledger for itself, give their
answers and take the books from the first to the last. -/
inductive Books.Replays : Books → List Answered → Books → Prop
  | nil (b : Books) : Replays b [] b
  | cons {b b' b'' : Books} {e : Answered} {es : List Answered} (now : Timestamp)
      (outcome : (e.answer, b') ∈ b.outcomes now e.call) (rest : Replays b' es b'') :
      Replays b (e :: es) b''

/-- A call never changes the books. -/
def Answered.Looks (e : Answered) : Prop :=
  ∀ (b : Books) (now : Timestamp) (answer : e.kind.Answer) (b' : Books),
    (answer, b') ∈ b.outcomes now e.call → b' = b

namespace Books.Replays

variable {b b' b'' : Books}

theorem snoc {es : List Answered} {e : Answered} (replays : Replays b es b') (now : Timestamp)
    (outcome : (e.answer, b'') ∈ b'.outcomes now e.call) : Replays b (es ++ [e]) b'' := by
  induction replays with
  | nil b => exact .cons now outcome (.nil b'')
  | cons now' first _ ih => exact .cons now' first (ih outcome)

/-- Look-ups may be left out. -/
theorem filter {α : Type} {f : α → Answered} {keep : α → Bool} {line : List α}
    (looks : ∀ x ∈ line, keep x = false → (f x).Looks) (replays : Replays b (line.map f) b') :
    Replays b ((line.filter keep).map f) b' := by
  induction line generalizing b with
  | nil => exact replays
  | cons x line ih =>
      cases replays with
      | cons now outcome rest =>
          have later := ih (fun y member => looks y (List.mem_cons_of_mem _ member)) rest
          cases kept : keep x with
          | true =>
              rw [List.filter_cons_of_pos kept]
              exact .cons now outcome later
          | false =>
              rw [List.filter_cons_of_neg (by simp [kept])]
              exact looks x (List.mem_cons_self ..) kept _ _ _ _ outcome ▸ later

end Books.Replays

/-! ### Answers -/

section Answers

variable {l : Ledger} {k : Call.Kind} {call : Call k} {stage : Stage k} {answer : k.Answer}

/-- What is foretold is the answer of a look-up. -/
theorem looks_of_foretold (bound : l.foretold stage = some answer) (began : Nat) :
    Answered.Looks ⟨call, answer, began⟩ := by
  intro b now answer' b' outcome
  cases stage with
  | removing id => cases bound
  | booking id => cases bound
  | reading id =>
      cases call with
      | findEvent id => exact (Prod.mk.inj (List.mem_singleton.mp outcome)).2
  | scanning wanted rest =>
      cases call with
      | findBooking wanted =>
          obtain ⟨_, _, same⟩ := List.mem_map.mp outcome
          exact (Prod.mk.inj same).2.symm

/-- Nobody who has the ledger for himself is refused for a cause that may pass. -/
theorem not_isPassing_of_outcome {b b' : Books} {now : Timestamp}
    (outcome : (answer, b') ∈ b.outcomes now call) : Call.Kind.isPassing answer = false := by
  cases call with
  | register d =>
      obtain ⟨rfl, -⟩ := Prod.mk.inj (List.mem_singleton.mp outcome)
      rfl
  | revise id r =>
      have same : answer = (b.revise id r).1 := congrArg Prod.fst (List.mem_singleton.mp outcome)
      subst same
      unfold Books.revise
      split
      · rfl
      · split <;> rfl
  | remove id =>
      have same : answer = (b.remove id).1 := congrArg Prod.fst (List.mem_singleton.mp outcome)
      subst same
      unfold Books.remove
      split
      · rfl
      · split <;> rfl
  | book r =>
      have same : answer = (b.book r now).1 := congrArg Prod.fst (List.mem_singleton.mp outcome)
      subst same
      unfold Books.book
      split
      · rfl
      · split <;> rfl
  | findEvent id => rfl
  | findBooking wanted => rfl
  | settle d =>
      have same : answer = (b.settle d now).1 := congrArg Prod.fst (List.mem_singleton.mp outcome)
      subst same
      unfold Books.settle
      split
      · rfl
      · split <;> rfl

end Answers

/-! ### The line -/

/-- A call in the line. -/
inductive Entry
  /-- A call that is over. -/
  | finished (c : Completed)
  /-- A look-up that is bound to an answer. -/
  | bound (t : Ticket) (e : Answered)

namespace Entry

/-- The call and its answer. -/
def answered : Entry → Answered
  | finished c => c.toAnswered
  | bound _ e => e

/-- The call, if it is over. -/
def finished? : Entry → Option Completed
  | finished c => some c
  | bound _ _ => none

/-- The ticket of a look-up that is bound. -/
def ticket? : Entry → Option Ticket
  | finished _ => none
  | bound t _ => some t

end Entry

/-- The calls of the line are those that are over and were not refused for a cause
that may pass, and look-ups. They give their answers one after another, and none
of those that are over was over before one that stands before it began. -/
structure Lined (b : Books) (completed : List Completed) (clock : Nat) (line : List Entry) :
    Prop where
  replays : Books.empty.Replays (line.map (·.answered)) b
  complete : (line.filterMap (·.finished?)).Perm (completed.filter (!·.isPassing))
  ordered : line.Pairwise fun x y => ∀ c, y = .finished c → x.answered.began ≤ c.ended
  begun : ∀ x ∈ line, x.answered.began < clock
  looks : ∀ t e, .bound t e ∈ line → e.Looks

namespace Lined

variable {b b' : Books} {completed : List Completed} {clock : Nat} {line : List Entry}

theorem nil : Lined .empty [] 0 [] where
  replays := .nil _
  complete := .refl _
  ordered := .nil
  begun _ member := by cases member
  looks _ _ member := by cases member

theorem tick (lined : Lined b completed clock line) : Lined b completed (clock + 1) line :=
  { lined with begun := fun x member => Nat.lt_succ_of_lt (lined.begun x member) }

/-- A look-up is bound to what is right now. -/
theorem bind (lined : Lined b completed clock line) {t : Ticket} {e : Answered} {now : Timestamp}
    (outcome : (e.answer, b) ∈ b.outcomes now e.call) (looks : e.Looks) (begun : e.began < clock) :
    Lined b completed clock (line ++ [.bound t e]) where
  replays := by
    rw [List.map_append]
    exact lined.replays.snoc now outcome
  complete := by
    rw [List.filterMap_append]
    exact (List.append_nil _).symm ▸ lined.complete
  ordered := by
    refine List.pairwise_append.mpr ⟨lined.ordered, List.pairwise_singleton _ _, ?_⟩
    rintro x _ y member c rfl
    cases List.mem_singleton.mp member
  begun x member := by
    rcases List.mem_append.mp member with before | new
    · exact lined.begun x before
    · cases List.mem_singleton.mp new
      exact begun
  looks u f member := by
    rcases List.mem_append.mp member with before | new
    · exact lined.looks u f before
    · cases List.mem_singleton.mp new
      exact looks

/-- A call is over where it does what it would do if it had the ledger for
itself. -/
theorem take (lined : Lined b completed clock line) {e : Answered} {now : Timestamp}
    (outcome : (e.answer, b') ∈ b.outcomes now e.call) (begun : e.began ≤ clock) :
    Lined b' (completed ++ [⟨e, clock⟩]) (clock + 1) (line ++ [.finished ⟨e, clock⟩]) where
  replays := by
    rw [List.map_append]
    exact lined.replays.snoc now outcome
  complete := by
    have unpassing : e.isPassing = false := not_isPassing_of_outcome outcome
    rw [List.filterMap_append, List.filter_append, List.filter_cons_of_pos (by simp [unpassing])]
    exact lined.complete.append_right _
  ordered := by
    refine List.pairwise_append.mpr ⟨lined.ordered, List.pairwise_singleton _ _, ?_⟩
    intro x member y new c same
    cases List.mem_singleton.mp new
    cases same
    exact Nat.le_of_lt (lined.begun x member)
  begun x member := by
    rcases List.mem_append.mp member with before | new
    · exact Nat.lt_succ_of_lt (lined.begun x before)
    · cases List.mem_singleton.mp new
      exact Nat.lt_succ_of_le begun
  looks u f member := by
    rcases List.mem_append.mp member with before | new
    · exact lined.looks u f before
    · cases List.mem_singleton.mp new

/-- A call that is refused for a cause that may pass is left out. -/
theorem refuse (lined : Lined b completed clock line) {c : Completed}
    (passing : c.isPassing = true) : Lined b (completed ++ [c]) (clock + 1) line :=
  { lined.tick with
    complete := by
      rw [List.filter_append, List.filter_cons_of_neg (by simp [passing])]
      exact (List.append_nil _).symm ▸ lined.complete }

/-- A look-up gives the answer that it was bound to. -/
theorem answer {before after : List Entry} {t : Ticket} {e : Answered}
    (lined : Lined b completed clock (before ++ .bound t e :: after))
    (unpassing : e.isPassing = false) :
    Lined b (completed ++ [⟨e, clock⟩]) (clock + 1) (before ++ .finished ⟨e, clock⟩ :: after) where
  replays := by
    have replays := lined.replays
    rw [List.map_append, List.map_cons] at replays ⊢
    exact replays
  complete := by
    have complete := lined.complete
    rw [List.filterMap_append] at complete ⊢
    rw [List.filter_append, List.filter_cons_of_pos (by simp [unpassing])]
    exact (List.perm_middle.trans (complete.cons _)).trans (List.perm_append_singleton _ _).symm
  ordered := by
    obtain ⟨first, rest, across⟩ := List.pairwise_append.mp lined.ordered
    obtain ⟨own, last⟩ := List.pairwise_cons.mp rest
    refine List.pairwise_append.mpr ⟨first, List.pairwise_cons.mpr ⟨own, last⟩, ?_⟩
    intro x member y later c same
    rcases List.mem_cons.mp later with rfl | later
    · cases same
      exact Nat.le_of_lt (lined.begun x (List.mem_append_left _ member))
    · exact across x member y (List.mem_cons_of_mem _ later) c same
  begun x member := by
    refine Nat.lt_succ_of_lt ?_
    rcases List.mem_append.mp member with first | rest
    · exact lined.begun x (List.mem_append_left _ first)
    · rcases List.mem_cons.mp rest with rfl | last
      · exact lined.begun (.bound t e) (List.mem_append_right _ (List.mem_cons_self ..))
      · exact lined.begun x (List.mem_append_right _ (List.mem_cons_of_mem _ last))
  looks u f member := by
    refine lined.looks u f ?_
    rcases List.mem_append.mp member with first | rest
    · exact List.mem_append_left _ first
    · rcases List.mem_cons.mp rest with own | last
      · cases own
      · exact List.mem_append_right _ (List.mem_cons_of_mem _ last)

/-- Look-ups that are bound may be struck out. -/
theorem filter (lined : Lined b completed clock line) {keep : Entry → Bool}
    (keeps : ∀ c, keep (.finished c) = true) : Lined b completed clock (line.filter keep) where
  replays := by
    refine lined.replays.filter fun x member gone => ?_
    cases x with
    | finished c => cases (keeps c).symm.trans gone
    | bound t e => exact lined.looks t e member
  complete := by
    have same : (line.filter keep).filterMap (·.finished?) = line.filterMap (·.finished?) := by
      rw [List.filterMap_filter]
      refine congrArg (List.filterMap · line) (funext fun x => ?_)
      cases x with
      | finished c => exact if_pos (keeps c)
      | bound t e => exact ite_self _
    rw [same]
    exact lined.complete
  ordered := lined.ordered.filter keep
  begun x member := lined.begun x (List.mem_filter.mp member).1
  looks t e member := lined.looks t e (List.mem_filter.mp member).1

/-- The calls of a line that are over are an order of all such calls. -/
theorem exists_order (lined : Lined b completed clock line) :
    ∃ order : List Completed, order.Perm (completed.filter (!·.isPassing)) ∧
      order.Pairwise (fun c d => ¬ d.ended < c.began) ∧
      Books.empty.Replays (order.map (·.toAnswered)) b := by
  refine ⟨line.filterMap (·.finished?), lined.complete, ?_, ?_⟩
  · refine List.pairwise_filterMap.mpr (lined.ordered.imp fun {x y} before c own d last => ?_)
    cases x with
    | bound t e => cases own
    | finished _ =>
        cases y with
        | bound t e => cases last
        | finished _ =>
            cases own
            cases last
            exact Nat.not_lt.mpr (before d rfl)
  · have struck : Lined b completed clock (line.filter fun x => x.finished?.isSome) :=
      lined.filter fun _ => rfl
    have same : (line.filter fun x => x.finished?.isSome).map (·.answered) =
        (line.filterMap (·.finished?)).map (·.toAnswered) := by
      rw [List.map_filterMap, ← List.filterMap_eq_map, List.filterMap_filter]
      refine congrArg (List.filterMap · line) (funext fun x => ?_)
      cases x <;> rfl
    exact same ▸ struck.replays

end Lined

/-! ### Look-ups that are bound -/

/-- The line has one entry for each look-up that is bound, and no others that are
not over. -/
structure Binds (bounds : Ticket → Option Answered) (line : List Entry) : Prop where
  iff : ∀ t e, .bound t e ∈ line ↔ bounds t = some e
  single : (line.filterMap (·.ticket?)).Nodup

namespace Binds

variable {bounds bounds' : Ticket → Option Answered} {line : List Entry} {t : Ticket} {e : Answered}

theorem congr (binds : Binds bounds line) (same : ∀ u, bounds' u = bounds u) :
    Binds bounds' line := by
  rwa [funext same]

/-- A ticket that is not bound has no entry. -/
theorem not_mem (binds : Binds bounds line) (unbound : bounds t = none) :
    t ∉ line.filterMap (·.ticket?) := by
  intro member
  obtain ⟨x, listed, same⟩ := List.mem_filterMap.mp member
  cases x with
  | finished c => cases same
  | bound u e =>
      cases same
      cases unbound.symm.trans ((binds.iff _ e).mp listed)

theorem bind (binds : Binds bounds line) (unbound : bounds t = none) :
    Binds (fun u => if u = t then some e else bounds u) (line ++ [.bound t e]) where
  iff u f := by
    by_cases own : u = t
    · subst own
      have absent : .bound u f ∉ line := fun member => by
        cases unbound.symm.trans ((binds.iff u f).mp member)
      simp [absent, eq_comm]
    · simp [own, binds.iff u f]
  single := by
    rw [List.filterMap_append]
    refine List.nodup_append.mpr ⟨binds.single, List.pairwise_singleton _ _, ?_⟩
    rintro u member v new rfl
    cases List.mem_singleton.mp new
    exact binds.not_mem unbound member

theorem take (binds : Binds bounds line) (c : Completed) : Binds bounds (line ++ [.finished c]) where
  iff u f := by
    rw [← binds.iff u f, List.mem_append]
    refine or_iff_left fun new => ?_
    cases List.mem_singleton.mp new
  single := by
    rw [List.filterMap_append]
    exact (List.append_nil _).symm ▸ binds.single

/-- A look-up that is over has no entry of its ticket any longer. -/
theorem answer {before after : List Entry} (binds : Binds bounds (before ++ .bound t e :: after))
    (c : Completed) :
    Binds (fun u => if u = t then none else bounds u) (before ++ .finished c :: after) where
  iff u f := by
    have single := binds.single
    rw [List.filterMap_append] at single
    have single : t ∉ (before ++ after).filterMap (·.ticket?) := by
      rw [List.filterMap_append]
      exact (List.nodup_cons.mp ((List.perm_middle.nodup_iff).mp single)).1
    by_cases own : u = t
    · subst own
      refine iff_of_false (fun member => single ?_) (by simp)
      have member : .bound u f ∈ before ++ after := by simpa using member
      exact List.mem_filterMap.mpr ⟨_, member, rfl⟩
    · rw [if_neg own, ← binds.iff u f]
      simp [own]
  single := by
    have single := binds.single
    rw [List.filterMap_append] at single ⊢
    exact (List.nodup_cons.mp ((List.perm_middle.nodup_iff).mp single)).2

/-- A look-up that is given up is struck out. -/
theorem strike (binds : Binds bounds line) (t : Ticket) :
    Binds (fun u => if u = t then none else bounds u)
      (line.filter fun x => x.ticket? ≠ some t) where
  iff u f := by
    rw [List.mem_filter, binds.iff u f]
    by_cases own : u = t
    · simp [own, Entry.ticket?]
    · simp [own, Entry.ticket?]
  single := binds.single.sublist (List.filter_sublist.filterMap _)

end Binds

/-- Any number of look-ups are bound at once to what is right now. -/
theorem Lined.bindAll {b : Books} {completed : List Completed} {clock : Nat} {line : List Entry}
    {bounds target : Ticket → Option Answered} (lined : Lined b completed clock line)
    (binds : Binds bounds line) (grows : ∀ u e, bounds u = some e → target u = some e)
    (right : ∀ u e, bounds u = none → target u = some e →
      (∃ now, (e.answer, b) ∈ b.outcomes now e.call) ∧ e.Looks ∧ e.began < clock)
    (ts : List Ticket) :
    ∃ line', Lined b completed clock line' ∧
      Binds (fun u => if u ∈ ts then target u else bounds u) line' := by
  induction ts with
  | nil => exact ⟨line, lined, binds.congr fun u => if_neg List.not_mem_nil⟩
  | cons t ts ih =>
      obtain ⟨line', lined', binds'⟩ := ih
      cases goal : target t with
      | none =>
          -- Nobody who is not to be bound was bound before.
          have unbound : bounds t = none := by
            cases before : bounds t with
            | none => rfl
            | some e => cases (grows t e before).symm.trans goal
          refine ⟨line', lined', binds'.congr fun u => ?_⟩
          by_cases own : u = t
          · simp [own, goal, unbound]
          · simp [own]
      | some e =>
          cases now_ : if t ∈ ts then target t else bounds t with
          | some f =>
              have same : f = e := by
                split at now_
                · exact Option.some.inj (now_.symm.trans goal)
                · exact Option.some.inj ((grows t f now_).symm.trans goal)
              refine ⟨line', lined', binds'.congr fun u => ?_⟩
              by_cases own : u = t
              · rw [own, if_pos (List.mem_cons_self ..), now_, goal, same]
              · simp [own]
          | none =>
              have unbound : bounds t = none := by
                split at now_
                · cases now_.symm.trans goal
                · exact now_
              obtain ⟨⟨now, outcome⟩, looks, begun⟩ := right t e unbound goal
              refine ⟨_, lined'.bind outcome looks begun, (binds'.bind now_).congr fun u => ?_⟩
              by_cases own : u = t
              · simp [own, goal]
              · simp [own]

namespace Traffic

/-- The answer that a call is bound to. -/
def boundOf (l : Ledger) (p : Pending) : Option Answered :=
  (l.foretold p.stage).map fun answer => ⟨p.call, answer, p.began⟩

/-- The calls that are not over and bound to an answer. -/
def bounds (w : Traffic) (t : Ticket) : Option Answered := (w.call? t).bind (boundOf w.ledger)

/-- A line of the calls of a traffic. -/
structure InLine (w : Traffic) (line : List Entry) : Prop where
  lined : Lined w.ledger.books w.completed w.clock line
  binds : Binds w.bounds line
  begun : ∀ t p, w.call? t = some p → p.began < w.clock

variable {w w' : Traffic} {line : List Entry} {t : Ticket}

section Bounds

variable {l' : Ledger}

theorem bounds_of_persists (sound : IsSound w) (persists : Persists w.ledger l') (u : Ticket) :
    (w.call? u).bind (boundOf l') = w.bounds u := by
  unfold bounds
  cases pending : w.call? u with
  | none => rfl
  | some p =>
      simp only [Option.bind_some, boundOf, foretold_of_persists (sound.fits pending) persists]

theorem bounds_of_removes {id : EventId} {row : EventRow} (removes : Removes w.ledger l' id row)
    {u : Ticket} {e : Answered} (bound : w.bounds u = some e) :
    (w.call? u).bind (boundOf l') = some e := by
  unfold bounds at bound
  obtain ⟨p, pending, bound⟩ := Option.bind_eq_some_iff.mp bound
  obtain ⟨answer, foretold, rfl⟩ := Option.map_eq_some_iff.mp bound
  rw [pending]
  simp only [Option.bind_some, boundOf, foretold_of_removes removes foretold, Option.map_some]

/-- Those who wait for the row of an event that is removed are bound to what was
right just before. -/
theorem right_of_removes (sound : IsSound w) (inLine : InLine w line) {id : EventId}
    {row : EventRow} (removes : Removes w.ledger l' id row) {u : Ticket} {e : Answered}
    (unbound : w.bounds u = none) (bound : (w.call? u).bind (boundOf l') = some e)
    (now : Timestamp) :
    (e.answer, w.ledger.books) ∈ w.ledger.books.outcomes now e.call ∧ e.Looks ∧
      e.began < w.clock := by
  obtain ⟨p, pending, bound⟩ := Option.bind_eq_some_iff.mp bound
  obtain ⟨answer, foretold, rfl⟩ := Option.map_eq_some_iff.mp bound
  refine ⟨?_, looks_of_foretold foretold p.began, inLine.begun u p pending⟩
  refine outcome_of_removes removes (sound.fits pending) ?_ foretold now
  simpa [bounds, pending, boundOf] using unbound

theorem bounds_advanced {k : Call.Kind} (call : Call k) (began : Nat)
    (result : Progress k × Ledger) (u : Ticket) :
    (w.advanced t call began result).bounds u =
      (callsAfter w.call? t call began result.1 u).bind (boundOf result.2) := by
  unfold bounds
  rw [call?_advanced, ledger_advanced]

section Advanced

variable {k : Call.Kind} (call : Call k) (began : Nat)

theorem bounds_advanced_further (stage : Stage k) (l' : Ledger) :
    (w.advanced t call began (.further stage, l')).bounds t =
      (l'.foretold stage).map fun answer => ⟨call, answer, began⟩ := by
  rw [bounds_advanced]
  exact congrArg (Option.bind · (boundOf l')) (if_pos rfl)

theorem bounds_advanced_done (answer : k.Answer) (l' : Ledger) :
    (w.advanced t call began (.done answer, l')).bounds t = none := by
  rw [bounds_advanced]
  exact congrArg (Option.bind · (boundOf l')) (if_pos rfl)

/-- To another call a step changes nothing while rows persist. -/
theorem bounds_advanced_of_ne (sound : IsSound w) {progress : Progress k}
    (persists : Persists w.ledger l') {u : Ticket} (other : u ≠ t) :
    (w.advanced t call began (progress, l')).bounds u = w.bounds u := by
  rw [bounds_advanced, callsAfter_of_ne other, bounds_of_persists sound persists]

end Advanced

end Bounds

namespace InLine

theorem opened : InLine opened [] where
  lined := .nil
  binds := ⟨fun t e => iff_of_false List.not_mem_nil (by simp [bounds, Traffic.opened, call?]), .nil⟩
  begun t p pending := by simp [Traffic.opened, call?] at pending

theorem begun_advanced (inLine : InLine w line) (t : Ticket) {k : Call.Kind} (call : Call k)
    {began : Nat} (result : Progress k × Ledger) (begun : began ≤ w.clock) (u : Ticket) (p : Pending)
    (pending : (w.advanced t call began result).call? u = some p) :
    p.began < (w.advanced t call began result).clock := by
  rw [call?_advanced] at pending
  rw [clock_advanced]
  by_cases own : u = t
  · cases progress : result.1 with
    | done answer =>
        rw [progress] at pending
        cases (if_pos own).symm.trans pending
    | further stage =>
        rw [progress] at pending
        cases (if_pos own).symm.trans pending
        exact Nat.lt_succ_of_le begun
  · rw [callsAfter_of_ne own] at pending
    exact Nat.lt_succ_of_lt (inLine.begun u p pending)

section Effects

variable {k : Call.Kind} {call : Call k} {began : Nat} {now : Timestamp} {l' : Ledger}
  (sound : IsSound w) (inLine : InLine w line) (begun : began ≤ w.clock)
include sound inLine begun

/-- A call that goes on stands where it stood. -/
theorem goesOn {stage : Stage k} (quiet : Quiet w.ledger l')
    (was : w.bounds t = (l'.foretold stage).map fun answer => ⟨call, answer, began⟩) :
    InLine (w.advanced t call began (.further stage, l')) line where
  lined := by
    have lined := inLine.lined.tick
    rwa [← quiet.books] at lined
  binds := by
    refine inLine.binds.congr fun u => ?_
    by_cases own : u = t
    · rw [own, was, bounds_advanced_further]
    · exact bounds_advanced_of_ne call began sound quiet.persists own
  begun := inLine.begun_advanced t call _ begun

/-- A call that is bound to an answer from now on takes its place behind all others. -/
theorem bound {stage : Stage k} {answer : k.Answer} (quiet : Quiet w.ledger l')
    (unbound : w.bounds t = none) (binds : l'.foretold stage = some answer)
    (outcome : (answer, w.ledger.books) ∈ w.ledger.books.outcomes now call) :
    ∃ line', InLine (w.advanced t call began (.further stage, l')) line' := by
  have lined := inLine.lined.tick.bind (t := t) outcome (looks_of_foretold binds began)
    (Nat.lt_succ_of_le begun)
  rw [← quiet.books] at lined
  refine ⟨_, lined, (inLine.binds.bind unbound).congr fun u => ?_,
    inLine.begun_advanced t call _ begun⟩
  by_cases own : u = t
  · rw [if_pos own, own, bounds_advanced_further, binds]
    rfl
  · rw [if_neg own]
    exact bounds_advanced_of_ne call began sound quiet.persists own

/-- A call that is refused for a cause that may pass has no place in the line. -/
theorem refused {answer : k.Answer} (quiet : Quiet w.ledger l') (unbound : w.bounds t = none)
    (passing : Call.Kind.isPassing answer = true) :
    InLine (w.advanced t call began (.done answer, l')) line where
  lined := by
    have lined := inLine.lined.refuse (c := ⟨⟨call, answer, began⟩, w.clock⟩) passing
    rwa [← quiet.books] at lined
  binds := by
    refine inLine.binds.congr fun u => ?_
    by_cases own : u = t
    · rw [own, unbound, bounds_advanced_done]
    · exact bounds_advanced_of_ne call began sound quiet.persists own
  begun := inLine.begun_advanced t call _ begun

/-- A call that takes effect takes its place behind all others. -/
theorem took {answer : k.Answer} (unbound : w.bounds t = none)
    (outcome : (answer, l'.books) ∈ w.ledger.books.outcomes now call)
    (persists : Persists w.ledger l') :
    ∃ line', InLine (w.advanced t call began (.done answer, l')) line' := by
  have lined := inLine.lined.take (e := ⟨call, answer, began⟩) outcome begun
  refine ⟨_, lined, (inLine.binds.take _).congr fun u => ?_,
    inLine.begun_advanced t call _ begun⟩
  by_cases own : u = t
  · rw [own, unbound, bounds_advanced_done]
  · exact bounds_advanced_of_ne call began sound persists own

/-- Before an event is removed, all take their places who wait for its row. -/
theorem removed {answer : k.Answer} {id : EventId} {row : EventRow} (unbound : w.bounds t = none)
    (outcome : (answer, l'.books) ∈ w.ledger.books.outcomes now call)
    (removes : Removes w.ledger l' id row) :
    ∃ line', InLine (w.advanced t call began (.done answer, l')) line' := by
  let target (u : Ticket) : Option Answered :=
    if u = t then none else (w.call? u).bind (boundOf l')
  have grows (u : Ticket) (e : Answered) (before : w.bounds u = some e) : target u = some e := by
    have other : u ≠ t := by
      rintro rfl
      cases unbound.symm.trans before
    exact (if_neg other).trans (bounds_of_removes removes before)
  have right (u : Ticket) (e : Answered) (before : w.bounds u = none) (after : target u = some e) :
      (∃ now, (e.answer, w.ledger.books) ∈ w.ledger.books.outcomes now e.call) ∧ e.Looks ∧
        e.began < w.clock := by
    have other : u ≠ t := by
      rintro rfl
      cases (if_pos rfl).symm.trans after
    obtain ⟨outcome, rest⟩ := right_of_removes sound inLine removes before
      ((if_neg other).symm.trans after) now
    exact ⟨⟨now, outcome⟩, rest⟩
  obtain ⟨line₁, lined, binds⟩ :=
    inLine.lined.bindAll inLine.binds grows right (w.calls.map (·.1))
  have lined := lined.take (e := ⟨call, answer, began⟩) outcome begun
  refine ⟨_, lined, (binds.take _).congr fun u => ?_, inLine.begun_advanced t call _ begun⟩
  by_cases own : u = t
  · have absent : (if u ∈ w.calls.map (·.1) then target u else w.bounds u) = none := by
      rw [own, unbound]
      exact ite_eq_right_iff.mpr fun _ => if_pos rfl
    rw [absent, own, bounds_advanced_done]
  · rw [bounds_advanced, callsAfter_of_ne own]
    split
    · exact (if_neg own).symm
    · rename_i unknown
      cases pending : w.call? u with
      | none =>
          unfold bounds
          rw [pending]
          rfl
      | some p => exact absurd (Keyed.mem_keys_of_get? pending) unknown

/-- A call that answers late has the place that it took when it was bound. -/
theorem late {answer : k.Answer} (quiet : Quiet w.ledger l')
    (answered : w.bounds t = some ⟨call, answer, began⟩)
    (unpassing : Call.Kind.isPassing answer = false) :
    ∃ line', InLine (w.advanced t call began (.done answer, l')) line' := by
  obtain ⟨before, after, rfl⟩ := List.append_of_mem ((inLine.binds.iff _ _).mpr answered)
  have lined := inLine.lined.answer unpassing
  rw [← quiet.books] at lined
  refine ⟨_, lined, (inLine.binds.answer _).congr fun u => ?_,
    inLine.begun_advanced t call _ begun⟩
  by_cases own : u = t
  · rw [if_pos own, own, bounds_advanced_done]
  · rw [if_neg own]
    exact bounds_advanced_of_ne call began sound quiet.persists own

end Effects

/-- A step of a call finds its place in the line. -/
theorem advanced (sound : IsSound w) (inLine : InLine w line) {k : Call.Kind} {call : Call k}
    {began : Nat} {now : Timestamp} {bound : Option k.Answer} {result : Progress k × Ledger}
    (was : w.bounds t = bound.map fun answer => ⟨call, answer, began⟩)
    (effect : Effect w.ledger now call bound result) (begun : began ≤ w.clock) :
    ∃ line', InLine (w.advanced t call began result) line' := by
  have free (unbound : bound = none) : w.bounds t = none := by
    rw [was, unbound]
    rfl
  cases effect with
  | goesOn quiet _ same => exact ⟨line, inLine.goesOn sound begun quiet (same ▸ was)⟩
  | binds quiet _ unbound binds outcome =>
      exact inLine.bound sound begun quiet (free unbound) binds outcome
  | refused quiet unbound passing => exact ⟨line, inLine.refused sound begun quiet (free unbound) passing⟩
  | took unbound outcome persists => exact inLine.took sound begun (free unbound) outcome persists
  | removed unbound outcome removes => exact inLine.removed sound begun (free unbound) outcome removes
  | late quiet answered unpassing =>
      rw [answered] at was
      exact inLine.late sound begun quiet was unpassing

/-- A step that only changes locks leaves the line as it is. -/
theorem of_quiet (sound : IsSound w) (inLine : InLine w line) (quiet : Quiet w.ledger w'.ledger)
    (calls : w'.calls = w.calls) (completed : w'.completed = w.completed)
    (clock : w'.clock = w.clock + 1) : InLine w' line := by
  have same (u : Ticket) : w'.call? u = w.call? u := by
    unfold call?
    rw [calls]
  refine ⟨?_, inLine.binds.congr fun u => ?_, fun u p pending => ?_⟩
  · rw [quiet.books, completed, clock]
    exact inLine.lined.tick
  · rw [bounds, same]
    exact bounds_of_persists sound quiet.persists u
  · rw [same] at pending
    rw [clock]
    exact Nat.lt_succ_of_lt (inLine.begun u p pending)

/-- A call that is given up leaves the line. -/
theorem dropped (sound : IsSound w) (inLine : InLine w line) (p : Pending) :
    InLine (w.dropped t p) (line.filter fun x => x.ticket? ≠ some t) := by
  have quiet : Quiet w.ledger (w.dropped t p).ledger := .abandon w.ledger t p.stage
  refine ⟨?_, (inLine.binds.strike t).congr fun u => ?_, fun u q pending => ?_⟩
  · rw [quiet.books]
    exact inLine.lined.tick.filter fun _ => rfl
  · rw [bounds, call?_dropped]
    split
    · rfl
    · exact bounds_of_persists sound quiet.persists u
  · rw [call?_dropped] at pending
    split at pending
    · cases pending
    · exact Nat.lt_succ_of_lt (inLine.begun u q pending)

/-- Every step finds its place in the line. -/
theorem step (sound : IsSound w) (inLine : InLine w line) {a : Action} (step : Step w a w') :
    ∃ line', InLine w' line' := by
  cases step with
  | @begin t k call order now free all =>
      refine inLine.advanced sound ?_ (sound.effect_begun call now all) (Nat.le_refl _)
      rw [bounds, free.1]
      rfl
  | @resume t p now pending =>
      refine inLine.advanced sound ?_ (sound.effect_resumed now pending)
        (Nat.le_of_lt (inLine.begun t p pending))
      rw [bounds, pending]
      rfl
  | @drop t p pending => exact ⟨_, inLine.dropped sound p⟩
  | @visit t key comes => exact ⟨line, inLine.of_quiet sound (.asked w.ledger t key) rfl rfl rfl⟩
  | @depart t key present => exact ⟨line, inLine.of_quiet sound (.left w.ledger t key) rfl rfl rfl⟩
  | failInsert => exact ⟨line, inLine.of_quiet sound (.of_rows rfl rfl rfl) rfl rfl rfl⟩
  | setHold => exact ⟨line, inLine.of_quiet sound (.of_rows rfl rfl rfl) rfl rfl rfl⟩

end InLine

/-- The calls of every reachable traffic have a line. -/
theorem Reachable.exists_line (reachable : Reachable w) : ∃ line, InLine w line := by
  refine reachable.induct (motive := fun w => ∃ line, InLine w line) ⟨[], .opened⟩ ?_
  rintro w a w' reachable ⟨line, inLine⟩ step
  exact inLine.step reachable.sound step

/-- Whatever overlaps at a ledger, there is an order of the calls that are over and
were not refused for a cause that may pass. A call that was over before another
one began comes first. One after another, each with the ledger for itself, the
calls give the answers that they gave and leave the books that there are. -/
theorem Reachable.linearizable (reachable : Reachable w) :
    ∃ order : List Completed, order.Perm (w.completed.filter fun c => !c.isPassing) ∧
      order.Pairwise (fun c d => ¬ d.ended < c.began) ∧
      Books.empty.Replays (order.map fun c => c.toAnswered) w.ledger.books := by
  obtain ⟨line, inLine⟩ := reachable.exists_line
  exact inLine.lined.exists_order

/-- Somebody looks an event up and has still to see its row. -/
def looking : Traffic := offered.begun 1 (.findEvent ⟨1⟩) [] .epoch

/-- The event is removed meanwhile. -/
def retired : Traffic :=
  (looking.begun 2 (.remove ⟨1⟩) [] .epoch).resumed 2 ⟨.remove ⟨1⟩, .removing ⟨1⟩, 2⟩ .epoch

/-- The look-up answers the row that the event had. -/
def recalled : Traffic := retired.resumed 1 ⟨.findEvent ⟨1⟩, .reading ⟨1⟩, 1⟩ .epoch

theorem reachable_recalled : recalled.Reachable := by
  have looking : looking.Reachable := reachable_offered.step (.begin ⟨rfl, rfl⟩ (.refl _))
  have retired : retired.Reachable :=
    (looking.step (.begin ⟨rfl, rfl⟩ (.refl _))).step (.resume rfl)
  exact retired.step (.resume rfl)

theorem linearizable_recalled :
    recalled.completed.length = 3 ∧
      ∃ order : List Completed, order.Perm (recalled.completed.filter fun c => !c.isPassing) ∧
        order.Pairwise (fun c d => ¬ d.ended < c.began) ∧
        Books.empty.Replays (order.map fun c => c.toAnswered) recalled.ledger.books :=
  ⟨rfl, Reachable.linearizable reachable_recalled⟩

end Traffic

end BoxOffice.Ledger
