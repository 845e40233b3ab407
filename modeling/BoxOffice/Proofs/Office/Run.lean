import BoxOffice.Office.Day
import BoxOffice.Office.Opening

/-!
# Runs of the office

What may happen to an office, in any order: requests come and are given up,
actors get on one step at a time, time passes, and the outside reaches into the
parts. The outside may do to the snapshots and to the bus whatever it likes, so
what is proved of all runs does not rest on how snapshots are kept or messages
delivered. The schedule of an office at work is one of many orders of moves.

A run keeps every move with the office before and after it. What a request did
is told by the turns of the one who asked.
-/

namespace BoxOffice.Office

open Ledger (Ticket)

/-- What may happen to an office. -/
inductive Move
  | ask (r : Request)
  | turn (a : Actor)
  /-- An actor gives up waiting for others. -/
  | hurry (a : Actor)
  /-- A consumer that is told to stop gets on for once. -/
  | overlook (consumer : Nat)
  | abandon (t : Ticket)
  | take
  | pass (now : Nat)
  | clock (time : Timestamp)
  /-- The pool is given a job from outside. -/
  | submit (job : Settlement.Job)
  /-- A row is let go that is held from outside. -/
  | unlock (key : RowKey)
  /-- A row is to be let go after a while. -/
  | unlockAfter (key : RowKey) (span : Span)
  | failInsert
  /-- Bookings will keep the event's row for a while. -/
  | setHold (hold : Span)
  | release (permits : Nat)
  /-- The snapshots are written from outside. -/
  | write (events : Snapshot.EventTable) (users : Snapshot.UserTable)
  /-- The bus is used from outside. -/
  | wire (bus : Bus)
  /-- Some of the coming attempts to open a queue will fail. -/
  | failSubscribe (failures : Nat)
  /-- A change of an event is made known from outside. -/
  | announce (c : EventChange)
  /-- A change of a user is made known from outside. -/
  | announceUser (c : UserChange)

/-- The office after a move, when the move can be made. -/
def Move.apply (o : Office) : Move → Option Office
  | .ask r => some (o.ask r).2
  | .turn a => step a o
  | .hurry a => Office.hurry a o
  | .overlook i => Office.overlook i o
  | .abandon t => some (o.abandon t)
  | .take => some { o with answers := [] }
  | .pass now => if o.now ≤ now then some { o with now := now } else none
  | .clock time => some { o with clock := time }
  | .submit job => some (o.submit job).2
  | .unlock key => some (o.unlock key).2
  | .unlockAfter key span => some (o.unlockAfter key span)
  | .failInsert => some { o with ledger := o.ledger.failInsert }
  | .setHold hold => some { o with ledger := o.ledger.setHold hold }
  | .release permits => some { o with gate := o.gate.release permits }
  | .write events users => some { o with events := events, users := users }
  | .wire bus => some { o with bus := bus }
  | .failSubscribe failures => some { o with subscribeFailures := failures }
  | .announce c => some (o.announce c).2
  | .announceUser c => some (o.announceUser c).2

/-- A move with the office before and after it. -/
structure Turn where
  move : Move
  before : Office
  after : Office

/-- A run from one office to another: what happened, in order. -/
inductive Run (first : Office) : List Turn → Office → Prop
  | start : Run first [] first
  | next {turns : List Turn} {o o' : Office} {m : Move} (run : Run first turns o)
      (moved : m.apply o = some o') : Run first (turns ++ [⟨m, o, o'⟩]) o'

/-- A run is one up to any of its turns, and one from there on. -/
theorem Run.split {first o : Office} {before after : List Turn} {x : Turn}
    (run : Run first (before ++ x :: after) o) :
    Run first before x.before ∧ x.move.apply x.before = some x.after ∧ Run x.after after o := by
  generalize turns_ : before ++ x :: after = turns at run
  induction run generalizing after with
  | start => simp at turns_
  | @next turns o o' m run moved ih =>
      rcases List.eq_nil_or_concat after with rfl | ⟨after', y, rfl⟩
      · obtain ⟨rfl, last⟩ := List.append_inj' turns_ rfl
        obtain rfl := (List.cons.inj last).1
        exact ⟨run, moved, .start⟩
      · rw [List.concat_eq_append, ← List.cons_append, ← List.append_assoc] at turns_
        obtain ⟨earlier, last⟩ := List.append_inj' turns_ rfl
        obtain rfl := (List.cons.inj last).1
        obtain ⟨reached, moved', later⟩ := ih earlier
        rw [List.concat_eq_append]
        exact ⟨reached, moved', later.next moved⟩

/-- Runs follow one another. -/
theorem Run.append {first o o' : Office} {turns turns' : List Turn} (run : Run first turns o)
    (later : Run o turns' o') : Run first (turns ++ turns') o' := by
  induction later with
  | start => rwa [List.append_nil]
  | next _ moved ih =>
      rw [← List.append_assoc]
      exact ih.next moved

/-- What holds right after a turn, and is kept by every turn since, holds ever since. -/
theorem Run.since {first o : Office} {before after : List Turn} {x : Turn}
    {P : List Turn → Office → Prop} (run : Run first (before ++ x :: after) o)
    (begins : P [] x.after)
    (goesOn : ∀ {turns : List Turn} {o o' : Office} {m : Move},
      Run first (before ++ x :: turns) o → m.apply o = some o' → P turns o →
        P (turns ++ [⟨m, o, o'⟩]) o') : P after o := by
  obtain ⟨reached, moved, later⟩ := run.split
  have begun := reached.next moved
  clear run
  induction later with
  | start => exact begins
  | next later moved ih =>
      have run := begun.append later
      rw [List.append_assoc, List.singleton_append] at run
      exact goesOn run moved ih

/-! ### The turns of a request -/

/-- Whether a move is a step of the one who asked. -/
def Move.isBy (t : Ticket) : Move → Bool
  | .turn (.caller u) => u == t
  | .hurry (.caller u) => u == t
  | _ => false

/-- The turns of the one who asked. -/
def ownTurns (t : Ticket) (turns : List Turn) : List Turn := turns.filter fun x => x.move.isBy t

theorem ownTurns_concat (t : Ticket) (turns : List Turn) (x : Turn) :
    ownTurns t (turns ++ [x]) = ownTurns t turns ++ if x.move.isBy t then [x] else [] := by
  unfold ownTurns
  rw [List.filter_append]
  cases own : x.move.isBy t <;> simp [own]

/-! ### Moves that are played -/

/-- The office after a move that can be made. -/
def Move.made (o : Office) (m : Move) : Office := (m.apply o).getD o

/-- The office after moves that can be made. -/
def played (o : Office) (ms : List Move) : Office := ms.foldl Move.made o

/-- The turns that moves are. -/
def play (o : Office) : List Move → List Turn
  | [] => []
  | m :: ms => ⟨m, o, m.made o⟩ :: (m.made o).play ms

/-- Whether moves can be made, one after another. -/
def canPlay (o : Office) : List Move → Bool
  | [] => true
  | m :: ms => (m.apply o).isSome && (m.made o).canPlay ms

theorem made_of_apply {o o' : Office} {m : Move} (moved : m.apply o = some o') : m.made o = o' := by
  rw [Move.made, moved, Option.getD_some]

theorem canPlay_append (o : Office) (ms ms' : List Move) :
    o.canPlay (ms ++ ms') = (o.canPlay ms && (o.played ms).canPlay ms') := by
  induction ms generalizing o with
  | nil => simp [canPlay, played]
  | cons m ms ih => simp [canPlay, played, ih, Bool.and_assoc]

theorem play_append (o : Office) (ms ms' : List Move) :
    o.play (ms ++ ms') = o.play ms ++ (o.played ms).play ms' := by
  induction ms generalizing o with
  | nil => simp [Office.play, played]
  | cons m ms ih => simp [Office.play, played, ih]

theorem played_append (o : Office) (ms ms' : List Move) :
    o.played (ms ++ ms') = (o.played ms).played ms' := List.foldl_append

/-- Turns that are played make the moves. -/
theorem move_mem_of_mem_play {o : Office} {ms : List Move} {x : Turn} (member : x ∈ o.play ms) :
    x.move ∈ ms := by
  induction ms generalizing o with
  | nil => cases member
  | cons m ms ih =>
      rcases List.mem_cons.mp member with rfl | later
      · exact List.mem_cons_self ..
      · exact List.mem_cons_of_mem _ (ih later)

theorem Run.play {first o : Office} {turns : List Turn} (run : Run first turns o) {ms : List Move}
    (can : o.canPlay ms = true) : Run first (turns ++ o.play ms) (o.played ms) := by
  induction ms generalizing o turns with
  | nil =>
      rw [Office.play, List.append_nil]
      exact run
  | cons m ms ih =>
      obtain ⟨possible, can⟩ := Bool.and_eq_true_iff.mp can
      have moved : m.apply o = some (m.made o) := by
        obtain ⟨o', moved⟩ := Option.isSome_iff_exists.mp possible
        rw [made_of_apply moved, moved]
      have later := ih (run.next moved) can
      rwa [List.append_assoc] at later

/-! ### What most steps leave alone -/

/-- The requests with their answers, and the rows. -/
structure Core where
  setup : Setup
  ledger : Ledger
  tasks : List (Ticket × Task)
  answers : List (Ticket × Answer)
  tickets : Nat
  held : List (RowKey × Ticket)

/-- The requests of an office with their answers, and its rows. -/
def core (o : Office) : Core := ⟨o.setup, o.ledger, o.tasks, o.answers, o.tickets, o.held⟩

/-- A worker runs a job. -/
def Works (o : Office) (i : Nat) (job : Settlement.Job) (run : Settlement.Run) : Prop :=
  ∃ deadline, o.pool.worker i = .running job run deadline

/-- Requests and rows are as they were, and no worker has got on. -/
structure Alike (o o' : Office) : Prop where
  core : o'.core = o.core
  works : ∀ {i job run}, o'.Works i job run → o.Works i job run

namespace Alike

variable {o o' o'' : Office}

theorem refl (o : Office) : Alike o o := ⟨rfl, id⟩

theorem trans (first : Alike o o') (second : Alike o' o'') : Alike o o'' :=
  ⟨second.core.trans first.core, fun works => first.works (second.works works)⟩

theorem of_pool (core : o'.core = o.core) (pool : o'.pool = o.pool) : Alike o o' := by
  refine ⟨core, ?_⟩
  rintro i job run ⟨deadline, works⟩
  exact ⟨deadline, pool ▸ works⟩

theorem ledger (alike : Alike o o') : o'.ledger = o.ledger := congrArg Core.ledger alike.core

theorem setup (alike : Alike o o') : o'.setup = o.setup := congrArg Core.setup alike.core

theorem task? (alike : Alike o o') (t : Ticket) : o'.task? t = o.task? t :=
  congrArg (fun c : Core => Keyed.get? t c.tasks) alike.core

theorem held (alike : Alike o o') : o'.held = o.held := congrArg Core.held alike.core

theorem answers (alike : Alike o o') : o'.answers = o.answers := congrArg Core.answers alike.core

end Alike

section Parts

variable (o : Office)

theorem alike_drawId : Alike o o.drawId.2 := .of_pool rfl rfl

theorem alike_drawMessageId : Alike o o.drawMessageId.2 := .of_pool rfl rfl

theorem alike_publish (topic : String) (m : Message) : Alike o (o.publish topic m).2 := by
  unfold publish
  split <;> exact .of_pool rfl rfl

theorem alike_announce (c : EventChange) : Alike o (o.announce c).2 :=
  (alike_drawMessageId o).trans (alike_publish _ _ _)

theorem alike_announceUser (c : UserChange) : Alike o (o.announceUser c).2 :=
  (alike_drawMessageId o).trans (alike_publish _ _ _)

theorem alike_cancelSettlement (a : Actor) (run : Settlement.Run) :
    Alike o (o.cancelSettlement a run) := by
  unfold cancelSettlement
  split <;> exact .of_pool rfl rfl

theorem alike_decide (own : Bool) : Alike o (o.decide own).2 := by
  unfold decide
  split <;> exact .of_pool rfl rfl

/-- A job that is given to the pool waits. -/
theorem alike_submit (job : Settlement.Job) : Alike o (o.submit job).2 := by
  unfold submit
  cases result : o.pool.submit job with
  | error refusal => exact .of_pool rfl rfl
  | ok pool =>
      have workers : pool.workers = o.pool.workers := by
        unfold Pool.submit at result
        split at result
        · split at result
          · cases result
            rfl
          · cases result
        · cases result
      refine ⟨rfl, ?_⟩
      rintro i job' run ⟨deadline, works⟩
      refine ⟨deadline, Eq.trans ?_ works⟩
      simp only [Pool.worker, workers]

/-- A booking that is handed over is given to the pool as one job, and what came of
it is counted. -/
theorem handOver_eq (b : Booking) :
    o.handOver b =
      { (o.drawId.2.submit (.ofBooking b o.drawId.1)).2 with
        metrics := (o.drawId.2.submit (.ofBooking b o.drawId.1)).2.metrics.settlement
          (match (o.drawId.2.submit (.ofBooking b o.drawId.1)).1 with
            | .ok _ => "submitted"
            | .error _ => "rejected") } := by
  simp only [handOver]
  split <;> rename_i submitted <;> simp only [submitted]

theorem alike_handOver (b : Booking) : Alike o (o.handOver b) := by
  rw [handOver_eq]
  exact ((alike_drawId o).trans (alike_submit _ _)).trans (.of_pool rfl rfl)

/-- Sending workers away changes nothing but the gate. -/
theorem abort_alike (p : Pool Settlement.Job Settlement.Run) :
    Alike o (Pool.abort poolHandler p o).2 := by
  unfold Pool.abort
  generalize p.workers.zipIdx = l
  induction l generalizing o with
  | nil => exact .refl o
  | cons entry l ih =>
      obtain ⟨w, i⟩ := entry
      cases w with
      | idle => exact ih o
      | running job run deadline => exact (alike_cancelSettlement o (.worker i) run).trans (ih _)
      | gone => exact ih o

/-- Nobody works in a pool whose workers were sent away. -/
theorem worker_aborted (p : Pool Settlement.Job Settlement.Run) (i : Nat) :
    p.aborted.worker i = .gone := by
  have gone : p.aborted.workers = p.workers.map fun _ => .gone := by
    unfold Pool.aborted Pool.settled
    split <;> rfl
  unfold Pool.worker
  rw [gone, List.getElem?_map]
  cases p.workers[i]? <;> rfl

theorem alike_abortPool : Alike o o.abortPool := by
  refine ⟨(abort_alike o o.pool).core, ?_⟩
  rintro i job run ⟨deadline, works⟩
  cases (worker_aborted o.pool i).symm.trans works

/-- A shutdown changes nothing but the gate, and no worker gets on. -/
theorem close_alike (now : Nat) (grace : Span) (p : Pool Settlement.Job Settlement.Run) :
    Alike o (Pool.close poolHandler now grace p o).2.2 ∧
      ∀ i job run deadline, (Pool.close poolHandler now grace p o).2.1.worker i =
        .running job run deadline → p.worker i = .running job run deadline := by
  unfold Pool.close
  split
  · exact ⟨.refl o, fun i job run deadline works => works⟩
  · split
    · refine ⟨abort_alike o p.closing, fun i job run deadline works => ?_⟩
      cases (worker_aborted p.closing i).symm.trans works
    · exact ⟨.refl o, fun i job run deadline works => works⟩

theorem alike_closePool (grace : Span) : Alike o (o.closePool grace).2 := by
  obtain ⟨alike, workers⟩ := close_alike o o.now grace o.pool
  refine ⟨alike.core, ?_⟩
  rintro i job run ⟨deadline, works⟩
  exact ⟨deadline, workers i job run deadline works⟩

end Parts

end BoxOffice.Office
