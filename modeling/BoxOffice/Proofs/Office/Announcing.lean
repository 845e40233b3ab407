import BoxOffice.Proofs.Change.RoundTrip
import BoxOffice.Proofs.Office.History
import Mathlib.Data.List.Forall2

/-!
# The events topic is the history of the rows

The ledger commits a change and afterwards the request that has made it publishes
the message, with others getting on in between. When nobody is at work any more,
the messages about an event are its history all the same: one for each commit,
with what the row was then, and an obituary for a row that was removed. Whoever reads
a message reads that, as long as the numbers of the rows fit in messages. The proof
keeps a balance while requests are at work: what is said and what is owed is what
the commits have to tell.
-/

namespace BoxOffice

/-- The routing keys of changes of events. -/
def EventChange.keys : List String :=
  ["event.created", "event.updated", "event.deleted", "event.seats.updated"]

theorem EventChange.routingKey_mem (c : EventChange) : c.routingKey ∈ keys := by
  cases c <;> simp [routingKey, keys]

/-- The numbers of a row are ones that a message can carry. -/
structure EventRow.InRange (row : EventRow) : Prop where
  id : InRange64 row.id.number
  availableSeats : InNat64 row.availableSeats
  ticketPrice : InRange64 row.ticketPrice.cents
  version : InNat64 row.version

/-- Whether a change is the removal of an event. -/
def EventChange.isRemoval : EventChange → Bool
  | .deleted _ => true
  | _ => false

namespace Office

open Ledger (Ticket)

/-- The messages about events on the events topic, in order. -/
def eventMessages (o : Office) : List Message :=
  (o.bus.publishedTo o.setup.eventsTopic).filter (·.routingKey ∈ EventChange.keys)

/-! ### What is said and what is owed -/

/-- A change with the identifier of its message. -/
structure Statement where
  messageId : String
  change : EventChange

def Statement.message (s : Statement) : Message := s.change.toMessage s.messageId

/-- What was said so far, what is owed and what the commits have to tell. Tickets that
were not given out owe nothing, so any bound on the tickets will do. -/
structure IsBalanced (o : Office) (said : List Statement) (told : List EventChange) : Prop where
  spoken : o.eventMessages = said.map (·.message)
  due : ∀ n, o.tickets ≤ n → (said.map (·.change) ++ (List.range n).filterMap o.owes).Perm told

/-- The catalog and the booking service make all changes of events known, nobody else
does, and the bus takes every message. A request is not given up between its
change and the message about it, since it does not wait there. -/
structure IsCandid (turns : List Turn) : Prop where
  /-- Nobody asks the ledger itself for a change of an event. -/
  open_ : ∀ x ∈ turns, ∀ r, x.move = .ask r → r.isSecret = false
  accepted : ∀ x ∈ turns, ∀ t, x.move.isBy t = true → (x.before.owes t).isSome →
    x.before.bus.failPublishes = false
  alone : ∀ x ∈ turns, (∀ t, x.move.isBy t = false) → x.after.eventMessages = x.before.eventMessages
  patient : ∀ x ∈ turns, ∀ t, x.move = .abandon t → x.before.owes t = none

theorem IsCandid.init {turns : List Turn} {x : Turn} (candid : IsCandid (turns ++ [x])) :
    IsCandid turns where
  open_ x member := candid.open_ x (List.mem_append_left _ member)
  accepted x member := candid.accepted x (List.mem_append_left _ member)
  alone x member := candid.alone x (List.mem_append_left _ member)
  patient x member := candid.patient x (List.mem_append_left _ member)

section Balance

variable {o o' : Office} {t : Ticket} {c : EventChange} {m : Move}

theorem eventMessages_of_bus (setup : o'.setup = o.setup) (bus : o'.bus = o.bus) :
    o'.eventMessages = o.eventMessages := by
  unfold eventMessages
  rw [setup, bus]

/-- A change that is made known is the last message on the topic. -/
theorem eventMessages_announce (setup : o'.setup = o.setup) (accepts : o.bus.failPublishes = false)
    (bus : o'.bus = (o.announce c).2.bus) :
    o'.eventMessages = o.eventMessages ++ [c.toMessage (messageId o.messagesDrawn)] := by
  have routed : (o.announce c).2.bus =
      o.bus.route o.setup.eventsTopic (c.toMessage (messageId o.messagesDrawn)) := by
    have taken : o.drawMessageId.2.bus.publish o.setup.eventsTopic
          (c.toMessage (messageId o.messagesDrawn)) =
        .ok (o.bus.route o.setup.eventsTopic (c.toMessage (messageId o.messagesDrawn))) := by
      unfold Bus.publish
      exact if_neg (by rw [show o.drawMessageId.2.bus = o.bus from rfl, accepts]; decide)
    unfold announce publish
    simp only [drawMessageId] at taken ⊢
    rw [taken]
  have known : (c.toMessage (messageId o.messagesDrawn)).routingKey ∈ EventChange.keys :=
    c.routingKey_mem
  unfold eventMessages
  rw [setup, bus, routed]
  simp [Bus.publishedTo, Bus.route, List.filter_append, known]

namespace IsBalanced

variable {said : List Statement} {told : List EventChange}

theorem opened (new : IsNew o) : IsBalanced o [] [] := by
  cases new with
  | @opened setup scans clock sizing decider consumers application =>
      refine ⟨rfl, fun n _ => ?_⟩
      have silent : (List.range n).filterMap
          (Office.opened setup clock sizing decider consumers application).owes = [] :=
        List.filterMap_eq_nil_iff.mpr fun _ _ => rfl
      rw [silent]
      exact .refl _

theorem rests (balanced : IsBalanced o said told) (messages : o'.eventMessages = o.eventMessages)
    (tickets : o.tickets ≤ o'.tickets) (owes : ∀ t, o'.owes t = o.owes t) :
    IsBalanced o' said told where
  spoken := messages.trans balanced.spoken
  due n late := by
    rw [funext owes]
    exact balanced.due n (Nat.le_trans tickets late)

theorem commits (balanced : IsBalanced o said told) (messages : o'.eventMessages = o.eventMessages)
    (tickets : o.tickets ≤ o'.tickets) (known : t < o.tickets) (silent : o.owes t = none)
    (owes : o'.owes t = some c) (others : ∀ u, u ≠ t → o'.owes u = o.owes u) :
    IsBalanced o' said (told ++ [c]) where
  spoken := messages.trans balanced.spoken
  due n late := by
    have late := Nat.le_trans tickets late
    obtain ⟨rest, before, after⟩ := perm_tickets (Nat.lt_of_lt_of_le known late) others
    rw [silent, Option.toList_none, List.nil_append] at before
    rw [owes, Option.toList_some, List.singleton_append] at after
    have owed := (before.symm.append_left _).trans (balanced.due n late)
    calc (said.map (·.change) ++ (List.range n).filterMap o'.owes).Perm
          (said.map (·.change) ++ c :: rest) := after.append_left _
      _ |>.Perm (c :: (said.map (·.change) ++ rest)) := List.perm_middle
      _ |>.Perm (c :: told) := owed.cons c
      _ |>.Perm (told ++ [c]) := (List.perm_append_singleton c told).symm

theorem utters {id : String} (balanced : IsBalanced o said told)
    (messages : o'.eventMessages = o.eventMessages ++ [c.toMessage id])
    (tickets : o.tickets ≤ o'.tickets) (known : t < o.tickets) (owed : o.owes t = some c)
    (done : o'.owes t = none) (others : ∀ u, u ≠ t → o'.owes u = o.owes u) :
    IsBalanced o' (said ++ [⟨id, c⟩]) told where
  spoken := by
    rw [messages, balanced.spoken, List.map_append]
    rfl
  due n late := by
    have late := Nat.le_trans tickets late
    obtain ⟨rest, before, after⟩ := perm_tickets (Nat.lt_of_lt_of_le known late) others
    rw [owed, Option.toList_some] at before
    rw [done, Option.toList_none, List.nil_append] at after
    rw [List.map_append, List.append_assoc]
    refine List.Perm.trans ?_ (balanced.due n late)
    exact ((after.append_left [c]).trans before.symm).append_left _

/-- When nobody is at work, all is said. -/
theorem perm (balanced : IsBalanced o said told) (idle : ∀ t, o.task? t = none) :
    (said.map (·.change)).Perm told := by
  have nothing : (List.range o.tickets).filterMap o.owes = [] :=
    List.filterMap_eq_nil_iff.mpr fun t _ => owes_of_none (idle t)
  have due := balanced.due o.tickets (Nat.le_refl _)
  rwa [nothing, List.append_nil] at due

end IsBalanced

end Balance

/-- Whoever owes a change has a ticket. -/
theorem IsBacked.owes_known {o : Office} {t : Ticket} {c : EventChange} (backed : IsBacked o)
    (owed : o.owes t = some c) : t < o.tickets := by
  refine Nat.lt_of_not_le fun late => ?_
  cases (owes_of_none (backed.fresh late)).symm.trans owed

/-- A move of a candid run keeps the balance. -/
theorem IsBalanced.move {first o o' : Office} {turns : List Turn} {m : Move}
    {said : List Statement} {told : List EventChange} {news : Option EventChange}
    (balanced : IsBalanced o said told) (run : Run first turns o) (new : IsNew first)
    (candid : IsCandid (turns ++ [⟨m, o, o'⟩])) (moved : m.apply o = some o')
    (talks : Talks o m o' news) : ∃ said', IsBalanced o' said' (told ++ news.toList) := by
  have last : (⟨m, o, o'⟩ : Turn) ∈ turns ++ [⟨m, o, o'⟩] :=
    List.mem_append_right _ (List.mem_singleton_self _)
  have backed := (run.isBacked new.isBacked).1
  have setup := (moves_of_apply moved).setup
  have tickets := tickets_le moved
  cases talks with
  | rests events owes still =>
      have owes (t : Ticket) : o'.owes t = o.owes t := by
        rcases owes t with same | ⟨rfl, gone⟩
        · exact same
        · exact gone.trans (candid.patient _ last t rfl).symm
      have messages : o'.eventMessages = o.eventMessages := by
        by_cases somebody : ∃ t, m.isBy t = true
        · obtain ⟨t, own⟩ := somebody
          exact eventMessages_of_bus setup (congrArg Wires.bus (still t own))
        · exact candid.alone _ last fun t =>
            Bool.eq_false_iff.mpr fun own => somebody ⟨t, own⟩
      rw [Option.toList_none, List.append_nil]
      exact ⟨said, balanced.rests messages tickets owes⟩
  | commits own silent news owes others still _ =>
      obtain ⟨task, at_, -⟩ := step_of_isBy own moved
      have known := Nat.lt_of_not_le fun late => by
        cases (backed.fresh late).symm.trans at_
      have messages := eventMessages_of_bus setup (congrArg Wires.bus still)
      exact ⟨said, balanced.commits messages tickets known silent owes others⟩
  | hides own at_ secret =>
      cases (run.notSecret new candid.init.open_ _ _ at_).symm.trans secret
  | @utters t c own owed done others events utters =>
      have accepts := candid.accepted _ last t own (by rw [owed]; rfl)
      have messages := eventMessages_announce setup accepts (congrArg Wires.bus utters)
      rw [Option.toList_none, List.append_nil]
      exact ⟨_, balanced.utters messages tickets (backed.owes_known owed) owed done others⟩

/-- A candid run tells of all that it commits. -/
theorem Run.balanced {first o : Office} {turns : List Turn} (run : Run first turns o)
    (new : IsNew first) (candid : IsCandid turns) :
    ∃ said told, Chronicle turns o told ∧ IsBalanced o said told := by
  induction run with
  | start => exact ⟨[], [], .opened new, .opened new⟩
  | next run moved ih =>
      obtain ⟨said, told, chronicle, balanced⟩ := ih candid.init
      obtain ⟨news, talks⟩ := run.talks new moved
      obtain ⟨said', balanced'⟩ := balanced.move run new candid moved talks
      have numbered := (run.isBacked new.isBacked).1.numbered
      exact ⟨said', _, chronicle.move numbered talks, balanced'⟩

/-! ### Exact histories -/

/-- A change tells of a commit: it has the version and the seats of the row then, and
the whole row, seats that were booked apart. The first commit alone is told as a
creation. -/
inductive TellsOf (row : EventRow) : EventChange → Prop
  | created (first : row.version = 1) : TellsOf row (.created (.ofRow row))
  | updated (later : 1 < row.version) : TellsOf row (.updated (.ofRow row))
  | booked (later : 1 < row.version) (publicId : PublicId) :
      TellsOf row (.seatsUpdated ⟨row.id, publicId, row.availableSeats, row.version⟩)

/-- What is to be told at the end of a history: of a row that is gone, that it is
removed. -/
def obituary (rows : List EventRow) : Option EventRow → List EventChange
  | some _ => []
  | none =>
    (rows.getLast?.map fun last => .deleted ⟨last.id, last.publicId, last.version⟩).toList

/-- Changes are the exact history of an event: one for each commit, and one for the
removal if there was one. -/
structure IsExact (id : EventId) (rows : List EventRow) (now : Option EventRow)
    (said : List EventChange) : Prop where
  about : ∀ row ∈ rows, row.id = id
  versions : rows.map (·.version) = List.range' 1 rows.length
  /-- The last commit made the row what it is. -/
  last : ∀ row, now = some row → rows.getLast? = some row
  news : ∃ news, List.Forall₂ TellsOf rows news ∧ (said.filter (!·.isRemoval)).Perm news
  removal : said.filter (·.isRemoval) = obituary rows now

section Exact

variable {id : EventId} {rows : List EventRow} {now : Option EventRow} {told : List EventChange}

theorem Account.exact (account : Account id rows now told) :
    ∃ news, List.Forall₂ TellsOf rows news ∧ (∀ c ∈ news, c.isRemoval = false) ∧
      told = news ++ obituary rows now := by
  induction account with
  | unknown => exact ⟨[], .nil, by simp, rfl⟩
  | created about first => exact ⟨_, .cons (.created first) .nil, by simp [EventChange.isRemoval], rfl⟩
  | removed account ih =>
      obtain ⟨news, tells, none_, rfl⟩ := ih
      refine ⟨news, tells, none_, ?_⟩
      rw [obituary, List.append_nil, obituary, account.current.2.2.1]
      rfl
  | @follows rows row row' told c account becomes ih =>
      obtain ⟨news, tells, none_, rfl⟩ := ih
      have version : 1 ≤ row.version := by
        obtain ⟨-, version, last, -⟩ := account.current
        rw [version]
        exact List.length_pos_of_mem (List.mem_of_getLast? last)
      have step : TellsOf row' c ∧ c.isRemoval = false := by
        cases becomes with
        | updated row r => exact ⟨.updated (Nat.lt_succ_of_le version), rfl⟩
        | booked row seats publicId => exact ⟨.booked (Nat.lt_succ_of_le version) publicId, rfl⟩
      refine ⟨news ++ [c], List.rel_append tells (.cons step.1 .nil), fun c' member => ?_, ?_⟩
      · rcases List.mem_append.mp member with before | last
        · exact none_ c' before
        · rw [List.mem_singleton.mp last]
          exact step.2
      · rw [obituary, obituary, List.append_nil, List.append_nil]

theorem isRemoval_of_mem_obituary {c : EventChange} (member : c ∈ obituary rows now) :
    c.isRemoval = true := by
  cases now with
  | some row => cases member
  | none =>
      obtain ⟨last, -, rfl⟩ := Option.map_eq_some_iff.mp (Option.mem_toList.mp member)
      rfl

/-- There is one removal at most, so there is only one order. -/
theorem eq_obituary_of_perm {removals : List EventChange} (same : removals.Perm (obituary rows now)) :
    removals = obituary rows now := by
  cases now with
  | some row => exact List.perm_nil.mp same
  | none =>
      simp only [obituary] at same ⊢
      generalize rows.getLast? = last at same ⊢
      cases last with
      | none => exact List.perm_nil.mp same
      | some row => exact List.perm_singleton.mp same

/-- Changes that are, in any order, those of an account are an exact history. -/
theorem Account.isExact (account : Account id rows now told) {said : List EventChange}
    (same : said.Perm told) : IsExact id rows now said := by
  obtain ⟨news, tells, none_, told_⟩ := account.exact
  constructor
  · exact account.same.1
  · exact account.versions
  · intro row at_
    subst at_
    exact account.current.2.2.1
  · refine ⟨news, tells, (same.filter _).trans ?_⟩
    have kept : news.filter (!·.isRemoval) = news :=
      List.filter_eq_self.mpr fun c member => by rw [none_ c member]; rfl
    have dropped : (obituary rows now).filter (!·.isRemoval) = [] :=
      List.filter_eq_nil_iff.mpr fun c member => by rw [isRemoval_of_mem_obituary member]; decide
    rw [told_, List.filter_append, kept, dropped, List.append_nil]
  · have dropped : news.filter (·.isRemoval) = [] :=
      List.filter_eq_nil_iff.mpr fun c member => by rw [none_ c member]; decide
    have kept : (obituary rows now).filter (·.isRemoval) = obituary rows now :=
      List.filter_eq_self.mpr fun c member => isRemoval_of_mem_obituary member
    have found := same.filter (·.isRemoval)
    rw [told_, List.filter_append, dropped, List.nil_append, kept] at found
    exact eq_obituary_of_perm found

end Exact

/-! ### Reading the topic -/

section Reading

variable {id : EventId} {row : EventRow} {rows : List EventRow} {now : Option EventRow}
  {said : List EventChange} {c : EventChange}

theorem TellsOf.inRange (tells : TellsOf row c) (inRange : row.InRange) : c.InRange := by
  obtain ⟨id, availableSeats, ticketPrice, version⟩ := inRange
  cases tells with
  | created | updated => exact ⟨id, availableSeats, ticketPrice, version⟩
  | booked => exact ⟨id, availableSeats, version⟩

/-- What is told of commits is told of one of them. -/
theorem exists_tellsOf {news : List EventChange} (tells : List.Forall₂ TellsOf rows news)
    (told : c ∈ news) : ∃ row ∈ rows, TellsOf row c := by
  induction tells with
  | nil => cases told
  | @cons row _ rows _ tells _ ih =>
      rcases List.mem_cons.mp told with rfl | later
      · exact ⟨row, List.mem_cons_self, tells⟩
      · obtain ⟨row', committed, tells'⟩ := ih later
        exact ⟨row', List.mem_cons_of_mem _ committed, tells'⟩

/-- What tells of rows that messages can carry can be carried by a message. -/
theorem IsExact.inRange (exact_ : IsExact id rows now said) (inRange : ∀ row ∈ rows, row.InRange)
    (member : c ∈ said) : c.InRange := by
  cases removal : c.isRemoval with
  | false =>
      obtain ⟨news, tells, same⟩ := exact_.news
      have told : c ∈ news := same.mem_iff.mp (List.mem_filter.mpr ⟨member, by rw [removal]; rfl⟩)
      obtain ⟨row, committed, tells⟩ := exists_tellsOf tells told
      exact tells.inRange (inRange row committed)
  | true =>
      have listed : c ∈ obituary rows now :=
        exact_.removal ▸ List.mem_filter.mpr ⟨member, removal⟩
      cases now with
      | some row => cases listed
      | none =>
          obtain ⟨last, final, rfl⟩ := Option.map_eq_some_iff.mp (Option.mem_toList.mp listed)
          obtain ⟨id, -, -, version⟩ := inRange last (List.mem_of_getLast? final)
          exact ⟨id, version⟩

end Reading

/-! ### Requests that fail -/

/-- Whether an answer tells that something was changed. -/
def Answer.succeeds : Answer → Bool
  | .ledger .row (.ok _) | .booking (.ok _) => true
  | _ => false

/-- A turn of a request ends it with an answer. -/
structure Turn.Ends (x : Turn) (t : Ticket) (answer : Answer) : Prop where
  idle : x.after.task? t = none
  answered : Keyed.get? t x.after.answers = some answer

/-- A request has published nothing so far, or it has and cannot fail any more. -/
inductive Heard (t : Ticket) (own : List Turn) (o : Office) : Prop
  | quiet (silent : ∀ x ∈ own, x.after.bus = x.before.bus)
      (open_ : o.task? t ≠ none → ∀ x ∈ own, x.after.task? t ≠ none)
  | spoken (done : o.task? t = none ∨ ∃ event receipt, o.task? t = some (.handingOver event receipt))
      (succeeds : ∀ x ∈ own, ∀ answer, x.Ends t answer → answer.succeeds = true)

section Heard

variable {o o' : Office} {t : Ticket} {own : List Turn} {m : Move}

/-- Only a request with nothing left to do is ended. -/
theorem Turn.not_ends {x : Turn} {task : Task} {answer : Answer}
    (at_ : x.after.task? t = some task) : ¬ x.Ends t answer := by
  intro ends
  cases at_.symm.trans ends.idle

theorem Heard.keep (heard : Heard t own o) (known : t < o.tickets) (keeps : Keeps t o o') :
    Heard t own o' := by
  cases heard with
  | quiet silent open_ =>
      refine .quiet silent fun busy => ?_
      rcases keeps.task? known with same | gone
      · exact open_ (same ▸ busy)
      · exact absurd gone busy
  | spoken done succeeds =>
      refine .spoken ?_ succeeds
      rcases keeps.task? known with same | gone
      · rwa [same]
      · exact .inl gone

/-- A turn in which the request does not fail is one more of those. -/
theorem Heard.speak {x : Turn}
    (done : o.task? t = none ∨ ∃ event receipt, o.task? t = some (.handingOver event receipt))
    (before : ∀ y ∈ own, ∀ answer, y.Ends t answer → answer.succeeds = true)
    (now : ∀ answer, x.Ends t answer → answer.succeeds = true) : Heard t (own ++ [x]) o := by
  refine .spoken done fun y member answer ends => ?_
  rcases List.mem_append.mp member with early | last
  · exact before y early answer ends
  · obtain rfl := List.mem_singleton.mp last
    exact now answer ends

theorem Heard.utter (open_ : ∀ x ∈ own, x.after.task? t ≠ none) {task : Task} {c : EventChange}
    (owed : task.owes = some c) (step : o.stepTask t task = some o') :
    Heard t (own ++ [⟨m, o, o'⟩]) o' := by
  have before (x : Turn) (member : x ∈ own) (answer : Answer) (ends : x.Ends t answer) :
      answer.succeeds = true := absurd ends.idle (open_ x member)
  cases task with
  | announcing row change =>
      cases step
      refine .speak (.inl (task?_finish _ t _)) before fun answer ends => ?_
      have answered : Keyed.get? t _ = some (Answer.ledger .row (.ok row)) :=
        Keyed.get?_put_self t _ (o.announce change).2.answers
      cases ends.answered.symm.trans answered
      rfl
  | announcingSeats event receipt =>
      cases step
      have handing := task?_setTask (o.announce (.seatsUpdated
        ⟨event.id, event.publicId, receipt.availableSeats, receipt.version⟩)).2 t
        (.handingOver event receipt)
      exact .speak (.inr ⟨event, receipt, handing⟩) before fun answer ends =>
        absurd ends (Turn.not_ends handing)
  | _ => cases owed

theorem Heard.turn (heard : Heard t own o) (own_ : m.isBy t = true) (moved : m.apply o = some o')
    {task : Task} (advances : Advances o t task o') : Heard t (own ++ [⟨m, o, o'⟩]) o' := by
  obtain ⟨at_, -, still, -, -⟩ := advances
  obtain ⟨task', at_', step⟩ := step_of_isBy own_ moved
  cases at_.symm.trans at_'
  have busy : o.task? t ≠ none := by rw [at_]; simp
  cases heard with
  | quiet silent open_ =>
      cases owed : task.owes with
      | none =>
          refine .quiet (fun x member => ?_) fun busy' x member => ?_
          · rcases List.mem_append.mp member with early | last
            · exact silent x early
            · obtain rfl := List.mem_singleton.mp last
              exact congrArg Wires.bus (still owed)
          · rcases List.mem_append.mp member with early | last
            · exact open_ busy x early
            · obtain rfl := List.mem_singleton.mp last
              exact busy'
      | some c =>
          rcases step with step | ⟨deadline, rfl⟩
          · exact .utter (open_ busy) owed step
          · cases owed
  | spoken done succeeds =>
      rcases done with idle | ⟨event, receipt, handing⟩
      · exact absurd idle busy
      · cases at_.symm.trans handing
        rcases step with step | ⟨deadline, hurried⟩
        · cases step
          refine .speak (.inl (task?_finish _ t (.booking (.ok (receipt.booking.view event.publicId)))))
            succeeds fun answer ends => ?_
          have answered : Keyed.get? t _ =
              some (Answer.booking (.ok (receipt.booking.view event.publicId))) :=
            Keyed.get?_put_self t _ (o.handOver receipt.booking).answers
          cases ends.answered.symm.trans answered
          rfl
        · cases hurried

end Heard

/-- What was heard of a request, at any time after it was made. -/
theorem Run.heard {first o o₁ o₂ : Office} {before after : List Turn} {r : Request}
    (run : Run first (before ++ ⟨.ask r, o₁, o₂⟩ :: after) o) (new : IsNew first) :
    o₁.tickets < o.tickets ∧ Heard o₁.tickets (ownTurns o₁.tickets after) o := by
  obtain ⟨-, moved, -⟩ := run.split
  obtain rfl : (o₁.ask r).2 = o₂ := Option.some.inj moved
  refine run.since (P := fun turns o => o₁.tickets < o.tickets ∧
    Heard o₁.tickets (ownTurns o₁.tickets turns) o) ⟨Nat.lt_succ_self _, ?_⟩ ?_
  · exact .quiet (by simp [ownTurns]) (by simp [ownTurns])
  · rintro turns o o' m run moved ⟨known, heard⟩
    refine ⟨Nat.lt_of_lt_of_le known (tickets_le moved), ?_⟩
    rw [ownTurns_concat]
    cases own : m.isBy o₁.tickets with
    | false =>
        rw [if_neg Bool.false_ne_true, List.append_nil]
        exact heard.keep known (keeps_of_move own moved)
    | true =>
        rw [if_pos rfl]
        obtain ⟨task, advances⟩ :=
          advances_of_isBy (run.isBacked new.isBacked).1 (run.fit new) own moved
        exact heard.turn own moved advances

/-! ### The topic after a run -/

/-- The events topic is the exact history of every event, and requests that failed
have no part in it. -/
structure TellsHistory (turns : List Turn) (o : Office) : Prop where
  /-- Every message is that of a change, and the changes of each event are its history. As
  long as the numbers of an event's rows fit, its messages are read as the changes that they
  are of. -/
  exact_ : ∃ said : List Statement, o.eventMessages = said.map (·.message) ∧
    ∀ id, IsExact id (history id turns) (o.ledger.books.row? id)
        ((said.map (·.change)).filter (·.eventId = id)) ∧
      ((∀ row ∈ history id turns, row.InRange) → ∀ s ∈ said, s.change.eventId = id →
        EventChange.ofMessage s.message = .ok (some s.change))
  /-- A request that was answered with a failure has published nothing in any turn. -/
  failed : ∀ before after r o₁ o₂, turns = before ++ ⟨.ask r, o₁, o₂⟩ :: after →
    ∀ y ∈ ownTurns o₁.tickets after, ∀ answer, y.Ends o₁.tickets answer →
      answer.succeeds = false → ∀ x ∈ ownTurns o₁.tickets after, x.after.bus = x.before.bus

/-- Whatever order requests get on in, the events topic is the history of the rows as
soon as all of them are answered. -/
theorem Run.tellsHistory {first o : Office} {turns : List Turn} (run : Run first turns o)
    (new : IsNew first) (candid : IsCandid turns) (idle : ∀ t, o.task? t = none) :
    TellsHistory turns o := by
  constructor
  · obtain ⟨said, told, chronicle, balanced⟩ := run.balanced new candid
    have all := balanced.perm idle
    refine ⟨said, balanced.spoken, fun id => ?_⟩
    have told := (chronicle.account id).isExact (all.filter _)
    refine ⟨told, fun inRange s member about => ?_⟩
    have listed : s.change ∈ (said.map (·.change)).filter (·.eventId = id) :=
      List.mem_filter.mpr ⟨List.mem_map_of_mem member, decide_eq_true about⟩
    exact (told.inRange inRange listed).comesBack.read s.messageId
  · rintro before after r o₁ o₂ rfl y ended answer ends fails x member
    obtain ⟨-, heard⟩ := run.heard new
    cases heard with
    | quiet silent _ => exact silent x member
    | spoken _ succeeds => cases fails.symm.trans (succeeds y ended answer ends)

/-- Whether a turn hides nothing: it is an open request, a step of one on a bus that
takes every message, or nothing to the topic. -/
def Turn.isPlain (x : Turn) : Bool :=
  match x.move with
  | .ask r => !r.isSecret && x.after.eventMessages = x.before.eventMessages
  | .turn (.caller _) => !x.before.bus.failPublishes
  | .hurry (.caller _) | .abandon _ => false
  | _ => x.after.eventMessages = x.before.eventMessages

theorem isCandid_of_isPlain {turns : List Turn} (plain : turns.all Turn.isPlain = true) :
    IsCandid turns := by
  have plain (x : Turn) (member : x ∈ turns) : x.isPlain = true := List.all_eq_true.mp plain x member
  constructor
  · intro x member r asks
    have open_ := plain x member
    rw [Turn.isPlain, asks] at open_
    simpa using (Bool.and_eq_true_iff.mp open_).1
  · intro x member t own _
    have accepts := plain x member
    unfold Turn.isPlain at accepts
    rcases Move.eq_of_isBy own with turn | hurry
    · rw [turn] at accepts
      simpa using accepts
    · rw [hurry] at accepts
      cases accepts
  · intro x member others
    have alone := plain x member
    unfold Turn.isPlain at alone
    split at alone <;> rename_i made
    · simpa using (Bool.and_eq_true_iff.mp alone).2
    · rename_i t
      exact absurd (others t) (by simp [made, Move.isBy])
    · cases alone
    · cases alone
    · simpa using alone
  · intro x member t gives_up
    have kept := plain x member
    rw [Turn.isPlain, gives_up] at kept
    cases kept

/-- Two seats of the talk are booked while the talk is given another title, which is
made known first. Another event is put on sale and taken out again, and nobody
finds the event that is asked for last. -/
def season : List Move :=
  sale ++ [.ask (.create (.ofNat 1) (.ofNat 2) 2),
      .ask (.revise ⟨1⟩ ⟨"Lecture", .epoch, .epoch, 8, ⟨2500⟩⟩)] ++
    List.replicate 4 (.turn (.caller 1)) ++ List.replicate 2 (.turn (.caller 2)) ++
    List.replicate 2 (.turn (.caller 1)) ++
    .ask (.register ⟨.ofNat 3, "Play", .epoch, .epoch, 5, ⟨1000⟩⟩) ::
      List.replicate 2 (.turn (.caller 3)) ++
    .ask (.remove ⟨2⟩) :: List.replicate 4 (.turn (.caller 4)) ++
    [.ask (.create (.ofNat 9) (.ofNat 2) 1), .turn (.caller 5)]

theorem run_season : Run vacant (vacant.play season) (vacant.played season) := by
  have played := Run.start.play (show vacant.canPlay season = true from rfl)
  rwa [List.nil_append] at played

theorem tellsHistory_season :
    (IsCandid (vacant.play season) ∧ (∀ t, (vacant.played season).task? t = none)) ∧
      (history ⟨1⟩ (vacant.play season)).map (·.availableSeats) = [3, 1, 6] ∧
      TellsHistory (vacant.play season) (vacant.played season) := by
  have candid : IsCandid (vacant.play season) := isCandid_of_isPlain (by decide +kernel)
  have idle (t : Ticket) : (vacant.played season).task? t = none := rfl
  exact ⟨⟨candid, idle⟩, rfl,
    run_season.tellsHistory (.opened (fun _ => .refl _) _ _ _ _ _) candid idle⟩

end Office

end BoxOffice
