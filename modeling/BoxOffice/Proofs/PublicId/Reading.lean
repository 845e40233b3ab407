import BoxOffice.PublicId.Reader
import Mathlib

/-!
# Reading public identifiers back

The written form of an identifier is read as the identifier. Its five groups are
its 32 digits in order, so the digits between the hyphens are those of its number,
and the hyphens stand where the reader wants them.
-/

namespace BoxOffice

namespace Text

/-- The digits of a number in two parts. -/
theorem hexDigits_add (a b n : Nat) :
    hexDigits (a + b) n = hexDigits a (n / 16 ^ b) ++ hexDigits b n := by
  induction b generalizing n with
  | zero => simp [hexDigits]
  | succ b ih =>
      rw [← Nat.add_assoc, hexDigits, ih, hexDigits, Nat.div_div_eq_div_mul, Nat.pow_succ,
        Nat.mul_comm 16, List.append_assoc]

/-- The number that digits stand for is the one they were taken from, as far as
they go. -/
theorem hexNumber?_hexDigits (width n : Nat) :
    hexNumber? (hexDigits width n) = some (n % 16 ^ width) := by
  induction width generalizing n with
  | zero => simp [hexDigits, hexNumber?, Nat.mod_one]
  | succ width ih =>
      have front : (hexDigits width (n / 16)).foldlM (fun n c => (hexValue? c).map (n * 16 + ·)) 0 =
          some (n / 16 % 16 ^ width) := ih (n / 16)
      rw [hexDigits, hexNumber?, List.foldlM_append, front]
      simp only [Option.bind_eq_bind, Option.bind_some, List.foldlM_cons, List.foldlM_nil,
        hexValue?_hexDigit (Nat.mod_lt n (by decide)), Option.map_some]
      rw [Nat.pow_succ, Nat.mul_comm (16 ^ width), Nat.mod_mul]
      exact congrArg some (by omega)

theorem exists_of_mem_hexDigits {width n : Nat} {c : Char} (member : c ∈ hexDigits width n) :
    ∃ d : Fin 16, c = hexDigit d := by
  induction width generalizing n with
  | zero => cases member
  | succ width ih =>
      rcases List.mem_append.mp member with front | last
      · exact ih front
      · exact ⟨⟨n % 16, Nat.mod_lt n (by decide)⟩, List.mem_singleton.mp last⟩

end Text

namespace PublicId

/-! ### The parts of a text -/

/-- A digit, as the reader sees it. -/
structure IsDigit (c : Char) : Prop where
  valued : (Text.hexValue? c).isSome
  noHyphen : c ≠ '-'
  noBrace : c ≠ '\x7b'
  noWord : c.toLower ≠ 'u'
  small : c.utf8Size = 1

theorem isDigit_of_mem {width n : Nat} {c : Char} (member : c ∈ Text.hexDigits width n) :
    IsDigit c := by
  have all : ∀ d : Fin 16, (Text.hexValue? (Text.hexDigit d)).isSome ∧ Text.hexDigit d ≠ '-' ∧
      Text.hexDigit d ≠ '\x7b' ∧ (Text.hexDigit d).toLower ≠ 'u' ∧
      (Text.hexDigit d).utf8Size = 1 := by
    decide
  obtain ⟨d, rfl⟩ := Text.exists_of_mem_hexDigits member
  obtain ⟨valued, noHyphen, noBrace, noWord, small⟩ := all d
  exact ⟨valued, noHyphen, noBrace, noWord, small⟩

/-- A group of digits is no hyphen. -/
theorem hyphens_append {ds : List Char} (digits : ∀ c ∈ ds, IsDigit c) (rest : List Char)
    (place : Nat) : hyphens (ds ++ rest) place = hyphens rest (place + ds.length) := by
  induction ds generalizing place with
  | nil => rfl
  | cons c ds ih =>
      rw [List.cons_append, hyphens, if_neg (digits c List.mem_cons_self).noHyphen,
        ih fun c member => digits c (List.mem_cons_of_mem _ member)]
      simp only [List.length_cons]
      congr 1
      omega

theorem stranger?_eq_none {cs : List Char} (known : ∀ c ∈ cs, c = '-' ∨ (Text.hexValue? c).isSome)
    (place : Nat) : stranger? cs place = none := by
  induction cs generalizing place with
  | nil => rfl
  | cons c cs ih =>
      rw [stranger?, if_pos (known c List.mem_cons_self)]
      exact ih (fun c member => known c (List.mem_cons_of_mem _ member)) _

theorem byteLength_eq {cs : List Char} (small : ∀ c ∈ cs, c.utf8Size = 1) :
    byteLength cs = cs.length := by
  induction cs with
  | nil => rfl
  | cons c cs ih =>
      rw [byteLength, small c List.mem_cons_self, List.length_cons, Nat.add_comm,
        ih fun c member => small c (List.mem_cons_of_mem _ member)]

/-- Nothing stands around a text that begins with a digit. -/
theorem core_cons {c : Char} (digit : IsDigit c) (cs : List Char) :
    core (c :: cs) = (c :: cs, 0, true) := by
  have word : resourceWord = 'u' :: "rn:uuid:".toList := by decide
  rw [core, if_neg fun brace => digit.noBrace (Option.some.inj brace.1), if_neg]
  rw [word, List.take_succ_cons, List.map_cons]
  exact fun same => digit.noWord (List.cons.inj same).1

/-! ### The written form -/

section

variable (id : PublicId)

/-- The groups of an identifier make up its digits. -/
theorem flatten_groups : id.groups.flatten = Text.hexDigits 32 id.bits.toNat := by
  have split := Text.hexDigits_add 8 24 id.bits.toNat
  have split₂ := Text.hexDigits_add 4 20 id.bits.toNat
  have split₃ := Text.hexDigits_add 4 16 id.bits.toNat
  have split₄ := Text.hexDigits_add 4 12 id.bits.toNat
  simp only [Nat.reduceAdd, Nat.reducePow] at split split₂ split₃ split₄
  rw [split, split₂, split₃, split₄]
  simp [groups]

/-- The groups with the hyphens between them. -/
theorem toList_text :
    id.text.toList =
      Text.hexDigits 8 (id.bits.toNat / Nat.pow 2 96) ++ '-' ::
        (Text.hexDigits 4 (id.bits.toNat / Nat.pow 2 80) ++ '-' ::
          (Text.hexDigits 4 (id.bits.toNat / Nat.pow 2 64) ++ '-' ::
            (Text.hexDigits 4 (id.bits.toNat / Nat.pow 2 48) ++ '-' ::
              Text.hexDigits 12 id.bits.toNat))) := by
  rw [text, String.toList_ofList]
  simp [groups, List.intercalate, List.intersperse]

theorem mem_text {c : Char} (member : c ∈ id.text.toList) : c = '-' ∨ IsDigit c := by
  rw [toList_text] at member
  simp only [List.mem_append, List.mem_cons] at member
  rcases member with digit | rfl | digit | rfl | digit | rfl | digit | rfl | digit
  all_goals first | exact .inl rfl | exact .inr (isDigit_of_mem digit)

/-- The digits between the hyphens are those of the number. -/
theorem filter_text : id.text.toList.filter (· != '-') = Text.hexDigits 32 id.bits.toNat := by
  have whole {width n : Nat} :
      (Text.hexDigits width n).filter (· != '-') = Text.hexDigits width n :=
    List.filter_eq_self.mpr fun c member => by simpa using (isDigit_of_mem member).noHyphen
  rw [← flatten_groups, toList_text]
  simp [groups, whole]

theorem hyphens_text : hyphens id.text.toList 0 = [8, 13, 18, 23] := by
  have skip (width n : Nat) (rest : List Char) (place : Nat) :
      hyphens (Text.hexDigits width n ++ rest) place = hyphens rest (place + width) := by
    rw [hyphens_append (fun _ => isDigit_of_mem) rest place, Text.length_hexDigits]
  have last (width n place : Nat) : hyphens (Text.hexDigits width n) place = [] := by
    have ends := skip width n [] place
    rwa [List.append_nil] at ends
  rw [toList_text]
  simp [skip, last, hyphens]

theorem length_text : id.text.toList.length = 36 := by
  rw [toList_text]
  simp

theorem core_text : core id.text.toList = (id.text.toList, 0, true) := by
  rw [toList_text]
  have digit : ∀ c ∈ Text.hexDigits 8 (id.bits.toNat / Nat.pow 2 96), IsDigit c :=
    fun _ => isDigit_of_mem
  have full := Text.length_hexDigits 8 (id.bits.toNat / Nat.pow 2 96)
  generalize Text.hexDigits 8 (id.bits.toNat / Nat.pow 2 96) = ds at digit full
  cases ds with
  | nil => cases full
  | cons c ds => exact core_cons (digit c List.mem_cons_self) _

end

/-- The written form of an identifier is read as the identifier. -/
theorem read_text (id : PublicId) : read id.text = .ok id := by
  have known : ∀ c ∈ id.text.toList, c = '-' ∨ (Text.hexValue? c).isSome := fun c member =>
    (id.mem_text member).imp_right (·.valued)
  have small : ∀ c ∈ id.text.toList, c.utf8Size = 1 := fun c member => by
    rcases id.mem_text member with rfl | digit
    · rfl
    · exact digit.small
  have value : (Text.hexNumber? (Text.hexDigits 32 id.bits.toNat)).getD 0 = id.bits.toNat := by
    rw [Text.hexNumber?_hexDigits, Option.getD_some]
    exact Nat.mod_eq_of_lt (Nat.lt_of_lt_of_eq id.bits.isLt (by decide))
  have back : ofNat id.bits.toNat = id := by rw [ofNat, BitVec.ofNat_toNat, BitVec.setWidth_eq]
  have placed : misplaced? [8, 13, 18, 23] = none := by decide
  simp [read, core_text, byteLength_eq small, length_text, hyphens_text, stranger?_eq_none known,
    placed, filter_text, value, back]

end PublicId

end BoxOffice
