import BoxOffice.Proofs.Bus.Traffic
import Mathlib

/-!
# What a lane keeps

A lane accounts for every message that was published to its queue. Each has a
number of its own, and is done with, waits, is held or is lost; it was put back
as often as decisions to do so are noted of it; and messages are taken out in the
order in which they came. Every change of a lane keeps this.
-/

namespace BoxOffice.Bus

theorem Copy.number_after (c : Copy) (how : Disposition) : (c.after how).number = c.number := by
  unfold Copy.after
  split <;> rfl

theorem Copy.original_after (c : Copy) (how : Disposition) : (c.after how).original = c.original := by
  unfold Copy.after
  split <;> rfl

namespace Lane

variable {l : Lane} {c : Copy} {published : List (String × Message)}

/-- A lane accounts for what was published to its queue. -/
structure IsSound (l : Lane) (published : List (String × Message)) : Prop where
  opened : l.opened ≤ published.length
  ended : ∀ n, l.ended = some n → n ≤ published.length
  routed : l.routed = l.due published
  /-- What came in was taken out or waits, in the order in which it came. -/
  inOrder : l.ended = none → l.entered = l.taken ++ l.waiting.map (·.message)
  before : l.taken <+: l.entered
  kept : l.ended = none → l.lost = []
  left : l.ended ≠ none → l.waiting = []
  /-- Each message that was published to the queue is in one place. -/
  numbered : (l.copies.map (·.number)).Perm (List.range l.routed.length)
  original : ∀ c ∈ l.copies, l.routed[c.number]? = some c.original
  counted : ∀ c ∈ l.copies, c.times = l.requeues c.number
  known : ∀ x ∈ l.settled, x.1.number < l.routed.length

namespace IsSound

theorem ofSubscription (s : Subscription) (published : List (String × Message)) :
    IsSound (.ofSubscription s published.length) published where
  opened := Nat.le_refl _
  ended := nofun
  routed := by simp [due, Lane.ofSubscription]
  inOrder _ := rfl
  before := List.prefix_rfl
  kept _ := rfl
  left ended := absurd rfl ended
  numbered := .refl _
  original := nofun
  counted := nofun
  known := nofun

/-- The messages that were published to the queue are those in the places where they
are now. -/
theorem perm_original (sound : l.IsSound published) :
    l.routed.Perm (l.copies.map (·.original)) := by
  have all : (List.range l.routed.length).map (l.routed[·]?) = l.routed.map some := by
    apply List.ext_getElem
    · simp
    · intro i inRange inList
      simp
  have each : (l.copies.map (·.number)).map (l.routed[·]?) =
      (l.copies.map (·.original)).map some := by
    simp only [List.map_map]
    exact List.map_congr_left sound.original
  have some_ : (l.routed.map some).Perm ((l.copies.map (·.original)).map some) := by
    rw [← all, ← each]
    exact (sound.numbered.map _).symm
  exact (List.map_perm_map_iff (Option.some_injective _)).mp some_

/-- The numbers of the messages are distinct. -/
theorem nodup (sound : l.IsSound published) : (l.copies.map (·.number)).Nodup :=
  sound.numbered.nodup_iff.mpr List.nodup_range

/-- A message of a queue is somewhere. -/
theorem exists_copy (sound : l.IsSound published) {n : Nat} {m : Message}
    (routed : l.routed[n]? = some m) : ∃ c ∈ l.copies, c.number = n ∧ c.original = m := by
  have early := (List.getElem?_eq_some_iff.mp routed).1
  have numbered := sound.numbered.mem_iff.mpr (List.mem_range.mpr early)
  obtain ⟨c, member, rfl⟩ := List.mem_map.mp numbered
  exact ⟨c, member, rfl, Option.some.inj ((sound.original c member).symm.trans routed)⟩

theorem number_lt (sound : l.IsSound published) (member : c ∈ l.copies) :
    c.number < l.routed.length :=
  (List.getElem?_eq_some_iff.mp (sound.original c member)).1

end IsSound

/-! ### Publishing -/

theorem due_append (opened : l.opened ≤ published.length)
    (ended : ∀ n, l.ended = some n → n ≤ published.length) (topic : String) (m : Message) :
    l.due (published ++ [(topic, m)]) =
      l.due published ++ if l.takes topic m then [m] else [] := by
  cases gone : l.ended with
  | some n =>
      have within := ended n gone
      simp [due, takes, gone, List.take_append_of_le_length within]
  | none =>
      simp only [due, takes, gone, Option.getD_none, List.take_length, Option.isNone_none,
        Bool.true_and, List.drop_append_of_le_length opened, List.filter_append, List.map_append,
        List.append_cancel_left_eq]
      split <;> simp_all

/-- A message that enters is one more message. -/
theorem copies_enter (l : Lane) (c : Copy) : (l.enter c).copies.Perm (c :: l.copies) := by
  apply List.perm_iff_count.mpr
  intro x
  simp only [copies, done, enter, List.count_append, List.count_cons, List.count_nil]
  omega

theorem IsSound.route (sound : l.IsSound published) (topic : String) (m : Message) :
    (l.route topic m).IsSound (published ++ [(topic, m)]) := by
  have due := due_append sound.opened sound.ended topic m
  have longer : published.length ≤ (published ++ [(topic, m)]).length := by simp
  unfold Lane.route
  split
  · rename_i taken
    have staying : l.ended = none := by
      simp only [takes, Bool.and_eq_true, Option.isNone_iff_eq_none] at taken
      exact taken.1.1
    have copies : (Lane.enter { l with routed := l.routed ++ [m] }
        ⟨l.routed.length, m, 0⟩).copies.Perm (⟨l.routed.length, m, 0⟩ :: l.copies) :=
      copies_enter _ _
    constructor
    case opened => exact Nat.le_trans sound.opened longer
    case ended => exact fun n gone => Nat.le_trans (sound.ended n gone) longer
    case routed =>
      show l.routed ++ [m] = l.due (published ++ [(topic, m)])
      rw [due, if_pos taken, sound.routed]
    case inOrder => simp [Lane.enter, sound.inOrder staying]
    case before => exact sound.before.trans (List.prefix_append _ _)
    case kept => exact sound.kept
    case left => exact fun gone => absurd staying gone
    case numbered =>
      have numbers := (copies.map Copy.number).trans (sound.numbered.cons l.routed.length)
      simp only [Lane.enter, List.length_append, List.length_singleton, List.range_succ]
      exact numbers.trans (List.perm_append_singleton _ _).symm
    case original =>
      intro x member
      rcases List.mem_cons.mp (copies.mem_iff.mp member) with rfl | old
      · simp [Lane.enter]
      · exact (List.getElem?_append_left (sound.number_lt old)).trans (sound.original x old)
    case counted =>
      intro x member
      rcases List.mem_cons.mp (copies.mem_iff.mp member) with rfl | old
      · refine (List.countP_eq_zero.mpr ?_).symm
        rintro ⟨y, how⟩ settled
        have earlier := sound.known _ settled
        simp only [Bool.and_eq_true, decide_eq_true_eq, not_and]
        intro same
        exact absurd same (Nat.ne_of_lt earlier)
      · exact sound.counted x old
    case known =>
      intro x settled
      simpa [Lane.enter] using Nat.lt_succ_of_lt (sound.known x settled)
  · rename_i passed
    rw [if_neg passed, List.append_nil] at due
    exact { sound with
      opened := Nat.le_trans sound.opened longer
      ended := fun n gone => Nat.le_trans (sound.ended n gone) longer
      routed := sound.routed.trans due.symm }

/-! ### Taking messages out -/

theorem IsSound.take (sound : l.IsSound published) {rest : List Copy}
    (waiting : l.waiting = c :: rest) : (l.take c.message).IsSound published := by
  have staying : l.ended = none := by
    by_contra gone
    rw [sound.left gone] at waiting
    cases waiting
  have taken : l.take c.message = { l with
      taken := l.taken ++ [c.message], waiting := rest, held := l.held ++ [c] } := by
    simp [Lane.take, waiting]
  have copies : (l.take c.message).copies.Perm l.copies := by
    apply List.perm_iff_count.mpr
    intro x
    simp only [taken, Lane.copies, done, waiting, List.count_append, List.count_cons,
      List.count_nil]
    omega
  have order : l.entered = (l.taken ++ [c.message]) ++ rest.map (·.message) := by
    simp [sound.inOrder staying, waiting]
  rw [taken] at copies ⊢
  exact { sound with
    inOrder := fun _ => order
    before := ⟨rest.map (·.message), order.symm⟩
    left := fun gone => absurd staying gone
    numbered := (copies.map _).trans sound.numbered
    original := fun x member => sound.original x (copies.mem_iff.mp member)
    counted := fun x member => sound.counted x (copies.mem_iff.mp member) }

/-! ### Settling -/

@[simp] theorem settle_subscription (l : Lane) (c : Copy) (how : Disposition) :
    (l.settle c how).subscription = l.subscription := by
  unfold settle
  split <;> rfl

@[simp] theorem settle_opened (l : Lane) (c : Copy) (how : Disposition) :
    (l.settle c how).opened = l.opened := by
  unfold settle
  split <;> rfl

@[simp] theorem settle_ended (l : Lane) (c : Copy) (how : Disposition) :
    (l.settle c how).ended = l.ended := by
  unfold settle
  split <;> rfl

@[simp] theorem settle_routed (l : Lane) (c : Copy) (how : Disposition) :
    (l.settle c how).routed = l.routed := by
  unfold settle
  split <;> rfl

@[simp] theorem settle_taken (l : Lane) (c : Copy) (how : Disposition) :
    (l.settle c how).taken = l.taken := by
  unfold settle
  split <;> rfl

@[simp] theorem settle_held (l : Lane) (c : Copy) (how : Disposition) :
    (l.settle c how).held = l.held.erase c := by
  unfold settle
  split <;> rfl

@[simp] theorem settle_settled (l : Lane) (c : Copy) (how : Disposition) :
    (l.settle c how).settled = l.settled ++ [(c, how)] := by
  unfold settle
  split <;> rfl

/-- What a settled message leaves behind. -/
theorem waiting_settle (l : Lane) (c : Copy) (how : Disposition) :
    (l.settle c how).waiting =
      l.waiting ++ if how = .requeue ∧ l.ended = none then [c.putBack] else [] := by
  cases how <;> cases gone : l.ended <;> simp [settle, gone, enter, note]

theorem entered_settle (l : Lane) (c : Copy) (how : Disposition) :
    (l.settle c how).entered =
      l.entered ++ if how = .requeue ∧ l.ended = none then [c.putBack.message] else [] := by
  cases how <;> cases gone : l.ended <;> simp [settle, gone, enter, note]

theorem lost_settle (l : Lane) (c : Copy) (how : Disposition) :
    (l.settle c how).lost =
      l.lost ++ if how = .requeue ∧ l.ended ≠ none then [c.putBack] else [] := by
  cases how <;> cases gone : l.ended <;> simp [settle, gone, enter, note]

theorem done_settle (l : Lane) (c : Copy) (how : Disposition) :
    (l.settle c how).done = l.done ++ if how.isFinal then [c] else [] := by
  unfold done
  cases final : how.isFinal <;> simp [final]

/-- All messages but one that is held. -/
def others (l : Lane) (c : Copy) : List Copy := l.done ++ l.waiting ++ l.held.erase c ++ l.lost

theorem copies_held (member : c ∈ l.held) : l.copies.Perm (c :: l.others c) := by
  have held := (List.perm_cons_erase member).append_left (l.done ++ l.waiting)
  exact (held.append_right l.lost).trans (List.perm_middle.append_right _)

/-- Settling a message changes that one only. -/
theorem copies_settle (l : Lane) (c : Copy) (how : Disposition) :
    (l.settle c how).copies.Perm (c.after how :: l.others c) := by
  apply List.perm_iff_count.mpr
  intro x
  simp only [copies, others, done_settle, waiting_settle, settle_held, lost_settle, Copy.after]
  cases how <;> cases l.ended <;> simp [Disposition.isFinal, List.count_cons] <;> omega

/-- No other message has the number of one that is held. -/
theorem IsSound.apart (sound : l.IsSound published) (member : c ∈ l.held) :
    ∀ x ∈ l.others c, x.number ≠ c.number := by
  have distinct := ((copies_held member).map (·.number)).nodup_iff.mp sound.nodup
  rw [List.map_cons] at distinct
  intro x other same
  exact (List.nodup_cons.mp distinct).1 (same ▸ List.mem_map_of_mem other)

theorem requeues_settle (l : Lane) (c : Copy) (how : Disposition) (number : Nat) :
    (l.settle c how).requeues number =
      l.requeues number + if c.number = number ∧ how = .requeue then 1 else 0 := by
  simp [requeues, List.countP_append, List.countP_cons]

theorem IsSound.settle (sound : l.IsSound published) (member : c ∈ l.held) (how : Disposition) :
    (l.settle c how).IsSound published := by
  have before := copies_held member
  have after := l.copies_settle c how
  have known : c ∈ l.copies := before.mem_iff.mpr List.mem_cons_self
  constructor
  case opened => simpa using sound.opened
  case ended => simpa using sound.ended
  case routed => simpa [due] using sound.routed
  case inOrder =>
    intro staying
    rw [settle_ended] at staying
    rw [entered_settle, waiting_settle, settle_taken, sound.inOrder staying]
    split <;> simp
  case before =>
    rw [entered_settle, settle_taken]
    exact sound.before.trans (List.prefix_append _ _)
  case kept =>
    intro staying
    rw [settle_ended] at staying
    simp [lost_settle, staying, sound.kept staying]
  case left =>
    intro gone
    rw [settle_ended] at gone
    simp [waiting_settle, gone, sound.left gone]
  case numbered =>
    have same : (c.after how :: l.others c).map (·.number) = (c :: l.others c).map (·.number) := by
      rw [List.map_cons, List.map_cons, Copy.number_after]
    have numbers := after.map (·.number)
    rw [same] at numbers
    rw [settle_routed]
    exact (numbers.trans (before.map _).symm).trans sound.numbered
  case original =>
    intro x placed
    rw [settle_routed]
    rcases List.mem_cons.mp (after.mem_iff.mp placed) with rfl | other
    · rw [Copy.number_after, Copy.original_after]
      exact sound.original c known
    · exact sound.original x (before.mem_iff.mpr (List.mem_cons_of_mem _ other))
  case counted =>
    intro x placed
    rw [requeues_settle]
    rcases List.mem_cons.mp (after.mem_iff.mp placed) with rfl | other
    · have times := sound.counted c known
      rw [Copy.number_after]
      unfold Copy.after
      split <;> simp_all [Copy.putBack]
    · rw [if_neg fun same => sound.apart member x other same.1.symm]
      exact sound.counted x (before.mem_iff.mpr (List.mem_cons_of_mem _ other))
  case known =>
    intro x settled
    rw [settle_settled, List.mem_append, List.mem_singleton] at settled
    rw [settle_routed]
    rcases settled with old | rfl
    · exact sound.known x old
    · exact sound.number_lt known

/-! ### Leaving -/

theorem IsSound.leave (sound : l.IsSound published) :
    (l.leave published.length).IsSound published := by
  unfold Lane.leave
  split
  · rename_i staying
    have copies : (Lane.copies { l with
        ended := some published.length, waiting := [], lost := l.lost ++ l.waiting }).Perm
          l.copies := by
      apply List.perm_iff_count.mpr
      intro x
      simp only [Lane.copies, done, List.count_append, List.count_nil]
      omega
    exact { sound with
      ended := by
        rintro n ⟨⟩
        exact Nat.le_refl _
      routed := by
        have routed := sound.routed
        simpa [due, staying] using routed
      inOrder := nofun
      kept := nofun
      left := fun _ => rfl
      numbered := (copies.map _).trans sound.numbered
      original := fun x member => sound.original x (copies.mem_iff.mp member)
      counted := fun x member => sound.counted x (copies.mem_iff.mp member) }
  · exact sound

end Lane

end BoxOffice.Bus
