import BoxOffice.Proofs.Change.Decoding

/-!
# Changes there and back

A change whose numbers are ones that a message can carry comes back from its
message as it was, whatever its title and its dates are, and the other domain
makes nothing of that message. Messages have the same key exactly when they are
about the same number, so all changes of one entity stay in order.
-/

namespace BoxOffice

/-- Whether a count or a version fits in 64 bits. -/
def InNat64 (n : Nat) : Prop := n ≤ Json.maxNat64

instance (n : Nat) : Decidable (InNat64 n) := inferInstanceAs (Decidable (_ ≤ _))

/-- The numbers of a snapshot are within their ranges. -/
structure EventSnapshot.InRange (s : EventSnapshot) : Prop where
  id : InRange64 s.id.number
  availableSeats : InNat64 s.availableSeats
  ticketPrice : InRange64 s.ticketPrice.cents
  version : InNat64 s.version

/-- The numbers of a count of seats are within their ranges. -/
structure SeatCount.InRange (c : SeatCount) : Prop where
  id : InRange64 c.id.number
  availableSeats : InNat64 c.availableSeats
  version : InNat64 c.version

/-- The numbers of a snapshot are within their ranges. -/
structure UserSnapshot.InRange (s : UserSnapshot) : Prop where
  id : InRange64 s.id.number
  version : InNat64 s.version

namespace EventChange

/-- The numbers of a change are within their ranges. -/
def InRange : EventChange → Prop
  | created s | updated s => s.InRange
  | deleted r => InRange64 r.id.number ∧ InNat64 r.version
  | seatsUpdated c => c.InRange

theorem InRange.fits {c : EventChange} (inRange : c.InRange) : c.Fits := by
  cases c with
  | created s =>
      exact ⟨inRange.id, trivial, trivial, trivial, trivial, inRange.availableSeats,
        inRange.ticketPrice, inRange.version, trivial⟩
  | updated s =>
      exact ⟨inRange.id, trivial, trivial, trivial, trivial, inRange.availableSeats,
        inRange.ticketPrice, inRange.version, trivial⟩
  | deleted r => exact ⟨inRange.1, trivial, inRange.2, trivial⟩
  | seatsUpdated c => exact ⟨inRange.id, trivial, inRange.availableSeats, inRange.version, trivial⟩

/-- Users make nothing of a message about an event. -/
theorem foreign_of_tells {m : Message} {c : EventChange} (tells : Tells m c) :
    UserChange.ofMessage m = .ok none := by
  unfold UserChange.ofMessage
  rw [tells.routingKey]
  cases c <;> rfl

end EventChange

namespace UserChange

/-- The numbers of a change are within their ranges. -/
def InRange : UserChange → Prop
  | created s | updated s => s.InRange
  | deleted r => InRange64 r.id.number ∧ InNat64 r.version

theorem InRange.fits {c : UserChange} (inRange : c.InRange) : c.Fits := by
  cases c with
  | created s => exact ⟨inRange.id, trivial, inRange.version, trivial⟩
  | updated s => exact ⟨inRange.id, trivial, inRange.version, trivial⟩
  | deleted r => exact ⟨inRange.1, trivial, inRange.2, trivial⟩

/-- Events make nothing of a message about a user. -/
theorem foreign_of_tells {m : Message} {c : UserChange} (tells : Tells m c) :
    EventChange.ofMessage m = .ok none := by
  unfold EventChange.ofMessage
  rw [tells.routingKey]
  cases c <;> rfl

end UserChange

/-! ### Keys -/

theorem EventId.text_inj {i j : EventId} : i.text = j.text ↔ i = j :=
  ⟨fun same => EventId.ext (Decimal.intText_injective same), congrArg EventId.text⟩

theorem UserId.text_inj {i j : UserId} : i.text = j.text ↔ i = j :=
  ⟨fun same => UserId.ext (Decimal.intText_injective same), congrArg UserId.text⟩

/-! ### Changes there and back -/

/-- A change of an event goes through its message unharmed. -/
structure EventChange.ComesBack (c : EventChange) : Prop where
  read (id : String) : ofMessage (c.toMessage id) = .ok (some c)
  /-- Users have nothing to do with the message. -/
  foreign (id : String) : UserChange.ofMessage (c.toMessage id) = .ok none
  key (id : String) : (c.toMessage id).key = Decimal.intText c.eventId.number
  /-- Two messages have the same key exactly when they are about the same event. -/
  keys (id : String) (d : EventChange) (id' : String) :
    (c.toMessage id).key = (d.toMessage id').key ↔ c.eventId = d.eventId

/-- A change of a user goes through its message unharmed. -/
structure UserChange.ComesBack (c : UserChange) : Prop where
  read (id : String) : ofMessage (c.toMessage id) = .ok (some c)
  /-- Events have nothing to do with the message. -/
  foreign (id : String) : EventChange.ofMessage (c.toMessage id) = .ok none
  key (id : String) : (c.toMessage id).key = Decimal.intText c.userId.number
  /-- Two messages have the same key exactly when they are about the same user. -/
  keys (id : String) (d : UserChange) (id' : String) :
    (c.toMessage id).key = (d.toMessage id').key ↔ c.userId = d.userId

theorem EventChange.InRange.comesBack {c : EventChange} (inRange : c.InRange) : c.ComesBack where
  read id := (Tells.restores (m := c.toMessage id) ⟨rfl, rfl⟩).eq_ok inRange.fits
  foreign id := foreign_of_tells (m := c.toMessage id) ⟨rfl, rfl⟩
  key _ := rfl
  keys _ _ _ := EventId.text_inj

theorem UserChange.InRange.comesBack {c : UserChange} (inRange : c.InRange) : c.ComesBack where
  read id := (Tells.restores (m := c.toMessage id) ⟨rfl, rfl⟩).eq_ok inRange.fits
  foreign id := foreign_of_tells (m := c.toMessage id) ⟨rfl, rfl⟩
  key _ := rfl
  keys _ _ _ := UserId.text_inj

/-- Every change that a message can carry comes back from its message. Across the
domains, keys tell the numbers of entities and nothing else. -/
theorem changes_comeBack :
    (∀ c : EventChange, c.InRange → c.ComesBack) ∧ (∀ c : UserChange, c.InRange → c.ComesBack) ∧
      ∀ (c : EventChange) (d : UserChange) (id id' : String),
        (c.toMessage id).key = (d.toMessage id').key ↔ c.eventId.number = d.userId.number :=
  ⟨fun _ inRange => inRange.comesBack, fun _ inRange => inRange.comesBack,
    fun _ _ _ _ => Decimal.intText_injective.eq_iff⟩

/-- A revision with a title that needs escapes, from the first second there is to a
leap second. -/
def farRevision : EventChange :=
  .updated ⟨⟨-9223372036854775808⟩, .ofNat 255, "\"Ça\" \\ \u0001\n😀",
    ⟨-8334601228800, 1, by decide, by decide, by decide, by decide⟩,
    ⟨1483228799, 1999999999, by decide, by decide, by decide, by decide⟩,
    18446744073709551615, ⟨9223372036854775807⟩, 18446744073709551615⟩

theorem comeBack_farRevision :
    farRevision.InRange ∧
      EventChange.ofMessage (farRevision.toMessage "m") = .ok (some farRevision) := by
  have inRange : farRevision.InRange := ⟨by decide, by decide, by decide, by decide⟩
  exact ⟨inRange, (changes_comeBack.1 farRevision inRange).read "m"⟩

end BoxOffice
