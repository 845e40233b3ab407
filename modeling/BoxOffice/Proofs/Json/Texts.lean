import BoxOffice.Proofs.Json.Numbers

/-!
# Reading quoted texts back

Every byte of a text that is written with quotes is read back as itself, whether
it was escaped or not, so a quoted text is read as the text it was. A text with a
form of its own is read as what was written, when the form is.
-/

namespace BoxOffice.Json

variable {rest : Bytes}

/-- The escape of a control character stands for its byte. -/
theorem hexNumber?_hexDigits (n : Fin 32) :
    ∃ h₁ h₂ h₃ h₄, asciiBytes (Text.hexDigits 4 n.val) = [h₁, h₂, h₃, h₄] ∧
      hexNumber? h₁ h₂ h₃ h₄ = some n.val ∧ codePointBytes n.val = [UInt8.ofNat n.val] := by
  have all : ∀ n : Fin 32,
      asciiBytes (Text.hexDigits 4 n.val) =
          [ascii '0', ascii '0', ascii (Text.hexDigit (n.val / 16)), ascii (Text.hexDigit (n.val % 16))] ∧
        hexNumber? (ascii '0') (ascii '0') (ascii (Text.hexDigit (n.val / 16)))
          (ascii (Text.hexDigit (n.val % 16))) = some n.val ∧
        codePointBytes n.val = [UInt8.ofNat n.val] := by
    decide
  exact ⟨_, _, _, _, all n⟩

/-- An escape of one letter stands for its byte. -/
theorem readTextBytes_simpleEscape {e c : UInt8} (escape : simpleEscape? e = some c)
    (plain : e ≠ ascii 'u') :
    readTextBytes (ascii '\\' :: e :: rest) = prepend [c] (readTextBytes rest) := by
  rw [readTextBytes.eq_def]
  simp only [show ascii '\\' ≠ ascii '"' by decide, plain, if_false, if_true, escape]

/-- A control character is read back from its number. -/
theorem readTextBytes_control {b : UInt8} (small : b.toNat < 32) :
    readTextBytes (asciiBytes (['\\', 'u'] ++ Text.hexDigits 4 b.toNat) ++ rest) =
      prepend [b] (readTextBytes rest) := by
  obtain ⟨h₁, h₂, h₃, h₄, digits, number, point⟩ := hexNumber?_hexDigits ⟨b.toNat, small⟩
  have bytes : asciiBytes (['\\', 'u'] ++ Text.hexDigits 4 b.toNat) ++ rest =
      ascii '\\' :: ascii 'u' :: h₁ :: h₂ :: h₃ :: h₄ :: rest := by
    rw [asciiBytes, List.map_append]
    exact congrArg (fun ds => ascii '\\' :: ascii 'u' :: (ds ++ rest)) digits
  simp only at number point
  rw [bytes, readTextBytes, if_neg (by decide), if_pos rfl]
  simp only [if_true, number, point, UInt8.ofNat_toNat]
  rw [if_neg (by omega), if_pos (by omega)]

/-- A byte is read back from its escape, or from itself when it has none. -/
theorem readTextBytes_escapeByte (b : UInt8) :
    readTextBytes (escapeByte b ++ rest) = prepend [b] (readTextBytes rest) := by
  unfold escapeByte
  split
  · rename_i quote
    exact quote ▸ readTextBytes_simpleEscape rfl (by decide)
  split
  · rename_i backslash
    exact backslash ▸ readTextBytes_simpleEscape rfl (by decide)
  split
  · rename_i backspace
    exact backspace ▸ readTextBytes_simpleEscape rfl (by decide)
  split
  · rename_i tab
    exact tab ▸ readTextBytes_simpleEscape rfl (by decide)
  split
  · rename_i newline
    exact newline ▸ readTextBytes_simpleEscape rfl (by decide)
  split
  · rename_i feed
    exact feed ▸ readTextBytes_simpleEscape rfl (by decide)
  split
  · rename_i carriage
    exact carriage ▸ readTextBytes_simpleEscape rfl (by decide)
  split
  · rename_i control
    exact readTextBytes_control (UInt8.lt_iff_toNat_lt.mp control)
  · rename_i noQuote noBackslash _ _ _ _ _ noControl
    rw [List.singleton_append, readTextBytes.eq_def]
    simp only [noQuote, noBackslash, noControl, if_false]

theorem readTextBytes_quoted (bytes : Bytes) :
    readTextBytes (bytes.flatMap escapeByte ++ ascii '"' :: rest) = .ok (bytes, rest) := by
  induction bytes with
  | nil =>
      rw [List.flatMap_nil, List.nil_append, readTextBytes.eq_def]
      exact if_pos rfl
  | cons b bytes ih =>
      rw [List.flatMap_cons, List.append_assoc, readTextBytes_escapeByte, ih]
      rfl

theorem readText_quoted (s : String) :
    readText ((Bytes.ofText s).flatMap escapeByte ++ ascii '"' :: rest) = .ok (s, rest) := by
  rw [readText, readTextBytes_quoted]
  simp only [bind, Except.bind, Bytes.text?_ofText]

theorem quoted_append (s : String) :
    quoted s ++ rest = ascii '"' :: ((Bytes.ofText s).flatMap escapeByte ++ ascii '"' :: rest) := by
  simp [quoted]

/-- A quoted text is read back. -/
theorem readQuoted_quoted (expected s : String) :
    readQuoted expected (quoted s ++ rest) = .ok (s, rest) := by
  rw [quoted_append, readQuoted]
  exact readText_quoted s

/-- A text with a form of its own is read back when the form is. -/
theorem readForm_quoted {α ε : Type} {expected : String} {ofText : String → Except ε α}
    {report : ε → String} {s : String} {v : α} (form : ofText s = .ok v) :
    readForm expected ofText report (quoted s ++ rest) = .ok (v, rest) := by
  rw [readForm, readQuoted_quoted]
  simp only [bind, Except.bind, form]

/-- The word of an enumeration is read back. -/
theorem readWordOf_quoted {α : Type} {ofWord? : String → Option α} {known : List String} {s : String}
    {v : α} (word : ofWord? s = some v) :
    readWordOf ofWord? known (quoted s ++ rest) = .ok (v, rest) := by
  have text : readText ((Bytes.ofText s).flatMap escapeByte ++ ascii '"' :: rest) = .ok (s, rest) :=
    readText_quoted s
  rw [quoted_append]
  show ((readText ((Bytes.ofText s).flatMap escapeByte ++ ascii '"' :: rest)).bind fun r =>
    (knownWord ofWord? known r.1).bind fun v => .ok (v, r.2)) = _
  rw [text]
  simp only [Except.bind, knownWord, word]

end BoxOffice.Json
