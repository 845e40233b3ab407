import BoxOffice.Json.Codec
import BoxOffice.Proofs.Json.Values

/-!
# Reading records back

A record whose fields have different names is read back from the object that it is
written as, when every value in it fits its kind; and when one does not, it is
refused or read back all the same, never read as another record. Reading goes on
from one field to the next with the values read so far, which are those of the
record's first fields.
-/

namespace BoxOffice.Json

variable {rest : Bytes}

/-- Every value of a record fits its kind. -/
def Row.Fits : (fs : List Field) → Row fs → Prop
  | [], _ => True
  | f :: fs, (v, vs) => f.kind.Fits v ∧ Row.Fits fs vs

/-- The first values of a record, the others not read yet. -/
def Slots.first : (fs : List Field) → Row fs → Nat → Slots fs
  | [], _, _ => ()
  | _ :: fs, _, 0 => (none, Slots.empty fs)
  | _ :: fs, (v, vs), count + 1 => (some v, Slots.first fs vs count)

/-- A member as it is written. -/
def member (f : Field) (v : f.kind.Value) : Bytes := quoted f.name ++ ascii ':' :: f.kind.write v

section

variable {fs : List Field}

theorem Slots.first_zero (row : Row fs) : Slots.first fs row 0 = Slots.empty fs := by
  cases fs with
  | nil => rfl
  | cons f fs => rfl

/-- All values of a record. -/
theorem Slots.complete_first (row : Row fs) :
    Slots.complete fs (Slots.first fs row fs.length) = .ok row := by
  induction fs with
  | nil => rfl
  | cons f fs ih =>
      obtain ⟨v, vs⟩ := row
      show (Slots.complete fs (Slots.first fs vs fs.length)).map (fun row => (v, row)) = .ok (v, vs)
      rw [ih]
      rfl

/-- A field whose value is the next one of a record. -/
structure NextField (row : Row fs) (count : Nat) (f : Field) where
  value : f.kind.Value
  fits : Row.Fits fs row → f.kind.Fits value
  written : (writeMembers fs row)[count]? = some (member f value)
  /-- Its value is read into its place. -/
  filled : ∀ rest, Stops rest →
    ∃ r, Slots.fill? f.name fs (Slots.first fs row count) (ascii ':' :: f.kind.write value ++ rest) =
        some r ∧
      Restores (f.kind.Fits value) (Slots.first fs row (count + 1), rest) r

/-- The value of a field is the next one after those of the fields before it. -/
theorem nextField (distinct : (fs.map (·.name)).Nodup) (row : Row fs) {count : Nat} {f : Field}
    (found : fs[count]? = some f) : Nonempty (NextField row count f) := by
  induction fs generalizing count with
  | nil => cases found
  | cons g fs ih =>
      obtain ⟨v, vs⟩ := row
      rw [List.map_cons, List.nodup_cons] at distinct
      cases count with
      | zero =>
          obtain rfl : g = f := Option.some.inj found
          refine ⟨v, fun fits => fits.1, rfl, fun rest stops => ⟨_, if_pos rfl, ?_⟩⟩
          have read := g.kind.restores v stops
          show Restores _ ((some v, Slots.first fs vs 0), rest)
            ((g.kind.read (g.kind.write v ++ rest)).bind fun r =>
              .ok ((some r.1, Slots.empty fs), r.2))
          rw [Slots.first_zero vs]
          exact (read.bind (q := True) (f := fun r => .ok ((some r.1, Slots.empty fs), r.2))
            .gives).imp fun fits => ⟨fits, trivial⟩
      | succ count =>
          have found : fs[count]? = some f := found
          obtain ⟨next⟩ := ih distinct.2 vs found
          have other : g.name ≠ f.name := fun same =>
            distinct.1 (same ▸ List.mem_map_of_mem (List.mem_of_getElem? found))
          refine ⟨next.value, fun fits => next.fits fits.2, next.written, fun rest stops => ?_⟩
          obtain ⟨r, filled, restores⟩ := next.filled rest stops
          refine ⟨r.map fun filled => ((some v, filled.1), filled.2), ?_, ?_⟩
          · show (if g.name = f.name then _ else (Slots.fill? f.name fs (Slots.first fs vs count) _).map _) = _
            rw [if_neg other, filled]
            rfl
          · exact restores.map fun filled => ((some v, filled.1), filled.2)

/-- The members of a record after some of them, as they are written. -/
def laterMembers (row : Row fs) (count : Nat) : Bytes :=
  ((writeMembers fs row).drop count).flatMap (ascii ',' :: ·) ++ [ascii '\x7d']

theorem laterMembers_of_getElem? {row : Row fs} {count : Nat} {m : Bytes}
    (written : (writeMembers fs row)[count]? = some m) :
    laterMembers row count = ascii ',' :: (m ++ laterMembers row (count + 1)) := by
  obtain ⟨inside, same⟩ := List.getElem?_eq_some_iff.mp written
  rw [laterMembers, List.drop_eq_getElem_cons inside, same, laterMembers]
  simp

theorem length_writeMembers (row : Row fs) : (writeMembers fs row).length = fs.length := by
  induction fs with
  | nil => rfl
  | cons f fs ih => exact congrArg (· + 1) (ih row.2)

theorem stops_laterMembers (row : Row fs) (count : Nat) : Stops (laterMembers row count ++ rest) := by
  cases later : (writeMembers fs row).drop count with
  | nil =>
      intro b head
      rw [laterMembers, later] at head
      cases head
      decide
  | cons m ms =>
      intro b head
      rw [laterMembers, later] at head
      cases head
      decide

theorem nextKey_member (f : Field) (v : f.kind.Value) :
    nextKey true (member f v ++ rest) =
        .ok (true, (Bytes.ofText f.name).flatMap escapeByte ++
          ascii '"' :: (ascii ':' :: f.kind.write v ++ rest)) ∧
      nextKey false (ascii ',' :: (member f v ++ rest)) =
        .ok (true, (Bytes.ofText f.name).flatMap escapeByte ++
          ascii '"' :: (ascii ':' :: f.kind.write v ++ rest)) := by
  have bytes : member f v ++ rest = ascii '"' :: ((Bytes.ofText f.name).flatMap escapeByte ++
      ascii '"' :: (ascii ':' :: f.kind.write v ++ rest)) := by
    rw [member, List.append_assoc, quoted_append]
  rw [bytes]
  exact ⟨rfl, rfl⟩

/-- The next member of a record is read after its key. -/
theorem NextField.restores {row : Row fs} {count : Nat} {f : Field} (next : NextField row count f)
    (stops : Stops rest) {α : Type} {v : α} {sure : Prop} {go : Slots fs × Bytes → Except Error α}
    (goesOn : Restores sure v (go (Slots.first fs row (count + 1), rest))) :
    Restores (Row.Fits fs row ∧ sure) v (do
      let (name, rest) ← readText ((Bytes.ofText f.name).flatMap escapeByte ++
        ascii '"' :: (ascii ':' :: f.kind.write next.value ++ rest))
      go (← Slots.fill name fs (Slots.first fs row count) rest)) := by
  obtain ⟨r, filled, restores⟩ := next.filled rest stops
  rw [readText_quoted]
  show Restores _ v (Slots.fill f.name fs (Slots.first fs row count) _ >>= go)
  rw [Slots.fill, filled]
  exact (restores.imp next.fits).bind goesOn

/-- What a reader of members does at a key. -/
theorem readMembers_of_nextKey {fuel : Nat} {first : Bool} {slots : Slots fs} {bytes rest : Bytes}
    (key : nextKey first bytes = .ok (true, rest)) :
    readMembers fs (fuel + 1) first slots bytes = (do
      let (name, rest) ← readText rest
      let (slots, rest) ← Slots.fill name fs slots rest
      readMembers fs fuel false slots rest) := by
  rw [readMembers, key]

/-- The members after some of them are read back. -/
theorem readMembers_later (distinct : (fs.map (·.name)).Nodup) (row : Row fs) {count fuel : Nat}
    (inside : count ≤ fs.length) (enough : fs.length - count < fuel) :
    Restores (Row.Fits fs row) (Slots.first fs row fs.length, rest)
      (readMembers fs fuel false (Slots.first fs row count) (laterMembers row count ++ rest)) := by
  induction fuel generalizing count with
  | zero => exact absurd enough (Nat.not_lt_zero _)
  | succ fuel ih =>
      rcases Nat.lt_or_ge count fs.length with more | all
      · obtain ⟨next⟩ := nextField distinct row (List.getElem?_eq_getElem more)
        rw [laterMembers_of_getElem? next.written, List.cons_append, List.append_assoc,
          readMembers_of_nextKey (nextKey_member _ next.value).2]
        exact (next.restores (stops_laterMembers row (count + 1)) (ih more (by omega))).imp
          fun fits => ⟨fits, fits⟩
      · obtain rfl : count = fs.length := Nat.le_antisymm inside all
        have none_ : (writeMembers fs row).drop fs.length = [] :=
          List.drop_eq_nil_of_le (Nat.le_of_eq (length_writeMembers row))
        rw [laterMembers, none_]
        exact .gives

/-- All members of a record are read back. -/
theorem readMembers_writeRow (distinct : (fs.map (·.name)).Nodup) (row : Row fs) {fuel : Nat}
    (enough : fs.length < fuel) :
    Restores (Row.Fits fs row) (Slots.first fs row fs.length, rest)
      (readMembers fs fuel true (Slots.empty fs)
        ([ascii ','].intercalate (writeMembers fs row) ++ ascii '\x7d' :: rest)) := by
  obtain ⟨fuel, rfl⟩ := Nat.exists_eq_succ_of_ne_zero (Nat.pos_iff_ne_zero.mp
    (Nat.lt_of_le_of_lt (Nat.zero_le _) enough))
  cases members : writeMembers fs row with
  | nil =>
      have count := length_writeMembers row
      rw [members] at count
      rw [← count, ← Slots.first_zero row]
      exact .gives
  | cons m ms =>
      have more : 0 < fs.length := by
        rw [← length_writeMembers row, members]
        exact Nat.succ_pos _
      obtain ⟨next⟩ := nextField distinct row (List.getElem?_eq_getElem more)
      obtain rfl : m = member fs[0] next.value := by
        have written := next.written
        rw [members] at written
        exact Option.some.inj written
      have bytes : [ascii ','].intercalate (member fs[0] next.value :: ms) ++ ascii '\x7d' :: rest =
          member fs[0] next.value ++ (laterMembers row 1 ++ rest) := by
        rw [intercalate_cons, laterMembers, members]
        simp
      rw [bytes, ← Slots.first_zero row, readMembers_of_nextKey (nextKey_member _ next.value).1]
      exact (next.restores (stops_laterMembers row 1)
        (readMembers_later distinct row more (by omega))).imp fun fits => ⟨fits, fits⟩

end

/-! ### Records of a type -/

/-- A record stands for one value, and names each of its fields once. -/
structure Codec.IsLawful {α : Type} (c : Codec α) : Prop where
  distinct : (c.shape.fields.map (·.name)).Nodup
  ofRow_toRow : ∀ v, c.ofRow (c.toRow v) = v

/-- The members of a record take at least as many bytes as there are fields. -/
theorem length_fields_le {fs : List Field} (row : Row fs) :
    fs.length ≤ ([ascii ','].intercalate (writeMembers fs row)).length := by
  rw [← length_writeMembers row]
  cases fs with
  | nil => exact Nat.zero_le _
  | cons f fs =>
      obtain ⟨v, vs⟩ := row
      have later := length_le_flatMap (f := fun m => ascii ',' :: m)
        (fun _ => List.cons_ne_nil _ _) (writeMembers fs vs)
      have one : 0 < (member f v).length := Nat.succ_pos _
      show (member f v :: writeMembers fs vs).length ≤
        ([ascii ','].intercalate (member f v :: writeMembers fs vs)).length
      rw [intercalate_cons, List.length_append, List.length_cons]
      omega

/-- A value that fits its record is read back from it. -/
theorem Codec.IsLawful.restores {α : Type} {c : Codec α} (lawful : c.IsLawful) (v : α) :
    Restores (Row.Fits c.shape.fields (c.toRow v)) v (c.read (c.write v)) := by
  have enough : c.shape.fields.length <
      ([ascii ','].intercalate (writeMembers c.shape.fields (c.toRow v)) ++ [ascii '\x7d']).length + 1 := by
    have := length_fields_le (c.toRow v)
    rw [List.length_append]
    omega
  have members := @readMembers_writeRow [] _ lawful.distinct (c.toRow v) _ enough
  have read : Restores (Row.Fits c.shape.fields (c.toRow v)) (c.toRow v, [])
      (c.shape.read (c.write v)) := by
    refine (members.bind (q := True) (f := fun (slots, rest) => do
      .ok (← Slots.complete c.shape.fields slots, rest)) ?_).imp fun fits => ⟨fits, trivial⟩
    simp only [Slots.complete_first]
    exact .gives
  have whole : Restores (Row.Fits c.shape.fields (c.toRow v)) (c.toRow v)
      (whole (c.shape.read (c.write v))) :=
    (read.bind (q := True) (f := fun (v, rest) =>
      if dropSpaces rest = [] then .ok v else .error .trailingCharacters) .gives).imp
      fun fits => ⟨fits, trivial⟩
  have value := whole.map c.ofRow
  rwa [lawful.ofRow_toRow] at value

theorem Codec.isLawful_eventSnapshot : eventSnapshot.IsLawful := ⟨by decide, fun _ => rfl⟩

theorem Codec.isLawful_seatCount : seatCount.IsLawful := ⟨by decide, fun _ => rfl⟩

theorem Codec.isLawful_removedEvent : removedEvent.IsLawful := ⟨by decide, fun _ => rfl⟩

theorem Codec.isLawful_userSnapshot : userSnapshot.IsLawful := ⟨by decide, fun _ => rfl⟩

theorem Codec.isLawful_removedUser : removedUser.IsLawful := ⟨by decide, fun _ => rfl⟩

end BoxOffice.Json
