import BoxOffice.Proofs.Text.Undamaged
import BoxOffice.Storage.Record
import Mathlib.Data.List.Induction

/-!
# Messages come back from their records

A message is read from a record by going through its headers, and each header may change
what the ones before it said. `messageOf_eq` says what that comes to: every part of a message
is the last text under its name, and parts without a text have what a message has at first.
So what stands before the headers of a message does not matter, nor do the reason for which it
was rejected and headers of other names, nor headers without a text wherever they are. What
stands after the headers of a message and has a text under one of their names does matter, and
`messageOf_headers` leaves only that out.
-/

namespace BoxOffice.Storage

/-! ### The last text under a name -/

/-- The text of a header that has a name. -/
def Header.textUnder (name : String) (h : Header) : Option String :=
  if h.name = name then h.value.bind Bytes.text? else none

/-- The last text that headers have under a name. -/
def lastText? (name : String) (hs : List Header) : Option String :=
  (hs.filterMap (Header.textUnder name)).getLast?

/-- The names under which the parts of a message stand. -/
def messageHeaders : List String := [routingKeyHeader, messageIdHeader, redeliveriesHeader]

/-- A header says nothing about a message: it has another name, or no value, or one that is
the form of no text. -/
def Header.IsIdle (h : Header) : Prop :=
  h.name ∉ messageHeaders ∨ ∀ s, h.value ≠ some (Bytes.ofText s)

section LastText

variable {name : String} {hs hs' : List Header} {h : Header}

theorem lastText?_append :
    lastText? name (hs ++ hs') = (lastText? name hs').or (lastText? name hs) := by
  rw [lastText?, List.filterMap_append, List.getLast?_append]
  rfl

theorem lastText?_singleton : lastText? name [h] = h.textUnder name := by
  unfold lastText?
  cases text : h.textUnder name <;> simp [text]

/-- A header with a text has it under its own name alone. -/
theorem textUnder_ofText (own value : String) :
    (Header.ofText own value).textUnder name = if own = name then some value else none := by
  simp only [Header.textUnder, Header.ofText, Option.bind_some, Bytes.text?_ofText]

theorem Header.IsIdle.textUnder (idle : h.IsIdle) (known : name ∈ messageHeaders) :
    h.textUnder name = none := by
  unfold Header.textUnder
  split
  · rename_i same
    rcases idle with foreign | textless
    · exact absurd (same ▸ known) foreign
    · refine Option.bind_eq_none_iff.mpr fun bytes value => ?_
      refine Bytes.text?_eq_none_iff.mpr fun s form => textless s ?_
      rw [value, form]
  · rfl

theorem lastText?_of_idle (idle : ∀ h ∈ hs, h.IsIdle) (known : name ∈ messageHeaders) :
    lastText? name hs = none := by
  have silent : hs.filterMap (Header.textUnder name) = [] :=
    List.filterMap_eq_nil_iff.mpr fun h member => (idle h member).textUnder known
  rw [lastText?, silent]
  rfl

end LastText

/-! ### What headers say -/

/-- The count that a text stands for. A text that is no count stands for none. -/
def countOf (value : String) : Nat :=
  (Decimal.readUnsigned Message.maxRedeliveries value).getD 0

/-- A header gives the part of a message that has its name. -/
theorem applyHeader_eq (m : Message) (h : Header) :
    applyHeader m h =
      { m with
        routingKey := (h.textUnder routingKeyHeader).getD m.routingKey
        messageId := (h.textUnder messageIdHeader).getD m.messageId
        redeliveries := ((h.textUnder redeliveriesHeader).map countOf).getD m.redeliveries } := by
  have key_id : routingKeyHeader ≠ messageIdHeader := by decide
  have key_count : routingKeyHeader ≠ redeliveriesHeader := by decide
  have id_count : messageIdHeader ≠ redeliveriesHeader := by decide
  unfold applyHeader Header.textUnder
  cases h.value.bind Bytes.text? with
  | none => simp
  | some value =>
      by_cases key : h.name = routingKeyHeader
      · simp [key, key_id, key_count]
      by_cases id : h.name = messageIdHeader
      · simp [id, key_id.symm, id_count]
      by_cases count : h.name = redeliveriesHeader
      · simp [count, key_count.symm, id_count.symm, countOf]
      · simp [key, id, count]

/-- Every part of a message is the last text under its name. -/
theorem messageOf_eq (freshId : String) (key body : Option Bytes) (hs : List Header) :
    messageOf freshId key body hs =
      { routingKey := (lastText? routingKeyHeader hs).getD ""
        messageId := (lastText? messageIdHeader hs).getD freshId
        key := Bytes.lossyText (key.getD [])
        body := body.getD []
        redeliveries := ((lastText? redeliveriesHeader hs).map countOf).getD 0 } := by
  -- The last header is applied last, so the induction is from the end.
  induction hs using List.reverseRecOn with
  | nil => rfl
  | append_singleton hs h ih =>
      unfold messageOf at ih ⊢
      rw [List.foldl_append, ih, List.foldl_cons, List.foldl_nil, applyHeader_eq]
      simp only [lastText?_append, lastText?_singleton, Message.mk.injEq, true_and]
      refine ⟨?_, ?_, ?_⟩
      · cases h.textUnder routingKeyHeader <;> rfl
      · cases h.textUnder messageIdHeader <;> rfl
      · cases h.textUnder redeliveriesHeader <;> rfl

/-! ### The headers of a message -/

/-- The parts of a message that stand in headers, each under its name. -/
def parts (m : Message) : List (String × String) :=
  [(routingKeyHeader, m.routingKey), (messageIdHeader, m.messageId),
    (redeliveriesHeader, Decimal.natText m.redeliveries)]

section Headers

variable {m : Message} {reason : Option String} {name text : String}

theorem mem_messageHeaders_of_mem_parts (part : (name, text) ∈ parts m) : name ∈ messageHeaders := by
  have names : (parts m).map Prod.fst = messageHeaders := rfl
  rw [← names]
  exact List.mem_map_of_mem part

/-- The reason for which a message was rejected is no part of it. -/
theorem isIdle_reason :
    ∀ h ∈ (reason.map (Header.ofText reasonHeader)).toList, h.IsIdle := by
  intro h member
  obtain ⟨text, -, rfl⟩ := Option.map_eq_some_iff.mp (Option.mem_toList.mp member)
  exact .inl (show reasonHeader ∉ messageHeaders by decide)

/-- The headers of a message have each part of it under its name. -/
theorem lastText?_headers (part : (name, text) ∈ parts m) :
    lastText? name (headers m reason) = some text := by
  have silent : lastText? name (reason.map (Header.ofText reasonHeader)).toList = none :=
    lastText?_of_idle isIdle_reason (mem_messageHeaders_of_mem_parts part)
  rw [headers, lastText?_append, silent, Option.none_or]
  simp only [parts, List.mem_cons, Prod.mk.injEq, List.not_mem_nil, or_false] at part
  rcases part with ⟨rfl, rfl⟩ | ⟨rfl, rfl⟩ | ⟨rfl, rfl⟩
  all_goals
    simp [lastText?, textUnder_ofText, messageIdHeader, redeliveriesHeader, routingKeyHeader]

/-- What stands before the headers of a message does not matter, nor does what stands after
them and says nothing about a message. -/
theorem lastText?_surrounded {before after : List Header} (idle : ∀ h ∈ after, h.IsIdle)
    (part : (name, text) ∈ parts m) :
    lastText? name (before ++ headers m reason ++ after) = some text := by
  rw [lastText?_append, lastText?_append,
    lastText?_of_idle idle (mem_messageHeaders_of_mem_parts part), lastText?_headers part,
    Option.none_or, Option.some_or]

end Headers

theorem countOf_natText {n : Nat} (fits : n ≤ Message.maxRedeliveries) :
    countOf (Decimal.natText n) = n := by
  rw [countOf, Decimal.readUnsigned_natText fits, Option.getD_some]

/-- The count of a message that was handed back stays within its bounds. -/
theorem redeliveries_redeliveredTimes_le {m : Message}
    (fits : m.redeliveries ≤ Message.maxRedeliveries) (n : Nat) :
    (m.redeliveredTimes n).redeliveries ≤ Message.maxRedeliveries := by
  cases n with
  | zero => exact fits
  | succ n => exact Nat.min_le_left _ _

/-- A message comes back from its record, however often it was handed back, whatever reason
is given, whatever stands before its headers, and whatever stands after them that says nothing
about a message. -/
theorem messageOf_headers {m : Message} (fits : m.redeliveries ≤ Message.maxRedeliveries) (n : Nat)
    (reason : Option String) (freshId : String) (before : List Header) {after : List Header}
    (idle : ∀ h ∈ after, h.IsIdle) :
    messageOf freshId (some (Bytes.ofText (m.redeliveredTimes n).key))
        (some (m.redeliveredTimes n).body)
        (before ++ headers (m.redeliveredTimes n) reason ++ after) =
      m.redeliveredTimes n := by
  have fits := redeliveries_redeliveredTimes_le fits n
  generalize m.redeliveredTimes n = m at fits ⊢
  have routingKey : (routingKeyHeader, m.routingKey) ∈ parts m := by simp [parts]
  have messageId : (messageIdHeader, m.messageId) ∈ parts m := by simp [parts]
  have count : (redeliveriesHeader, Decimal.natText m.redeliveries) ∈ parts m := by simp [parts]
  rw [messageOf_eq, lastText?_surrounded idle routingKey, lastText?_surrounded idle messageId,
    lastText?_surrounded idle count, Option.map_some, countOf_natText fits]
  simp only [Option.getD_some, Bytes.lossyText_ofText]

/-- A message that was handed back almost as often as can be counted. -/
def worn : Message := ⟨"event.created", "m-1", "Čas", [255, 0], 4294967294⟩

/-- Headers that say something else than those of the message. -/
def forged : List Header :=
  [.ofText routingKeyHeader "event.deleted", .ofText messageIdHeader "m-2",
    .ofText redeliveriesHeader "7", ⟨messageIdHeader, some [255]⟩]

/-- Headers that say nothing about a message. -/
def strays : List Header :=
  [.ofText "trace" "event.deleted", ⟨routingKeyHeader, none⟩, ⟨messageIdHeader, some [255]⟩]

theorem messageOf_headers_worn :
    worn.redeliveries ≤ Message.maxRedeliveries ∧ (∀ h ∈ strays, h.IsIdle) ∧
      messageOf "m-3" (some (Bytes.ofText "Čas")) (some [255, 0])
          (forged ++ headers (worn.redeliveredTimes 3) (some "Malformed payload") ++ strays) =
        ⟨"event.created", "m-1", "Čas", [255, 0], 4294967295⟩ := by
  have fits : worn.redeliveries ≤ Message.maxRedeliveries := by decide
  have damaged : Bytes.text? [255] = none := by decide
  have idle : ∀ h ∈ strays, h.IsIdle := by
    intro h member
    simp only [strays, List.mem_cons, List.not_mem_nil, or_false] at member
    rcases member with rfl | rfl | rfl
    · exact .inl (show "trace" ∉ messageHeaders by decide)
    · exact .inr nofun
    · refine .inr fun s form => Bytes.text?_eq_none_iff.mp damaged s (Option.some.inj form)
  exact ⟨fits, idle, messageOf_headers fits 3 (some "Malformed payload") "m-3" forged idle⟩

end BoxOffice.Storage
