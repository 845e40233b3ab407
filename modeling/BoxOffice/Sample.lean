import BoxOffice.Snapshot

/-!
# A sample event

An event and a user with usual values, for trying things out: the event begins thirty days after the
sample clock, lasts two days and costs 25.00 a seat.
-/

namespace BoxOffice.Sample

/-- The sample clock: the start of 2030. -/
def clock : Timestamp := .ofSecond 1893456000 (by decide)

/-- The begin of the sample event. -/
def start : Timestamp := .ofSecond 1896080400 (by decide)

/-- The end of the sample event. -/
def finish : Timestamp := .ofSecond 1896253200 (by decide)

/-- The sample event with a given title and number of seats. -/
def event (publicId : PublicId) (title : String) (seats : Nat) : EventDraft :=
  ⟨publicId, title, start, finish, seats, ⟨2500⟩⟩

/-- The snapshot of a user at the first version. -/
def user (publicId : PublicId) (id : UserId) : UserSnapshot := ⟨id, publicId, 1⟩

end BoxOffice.Sample
