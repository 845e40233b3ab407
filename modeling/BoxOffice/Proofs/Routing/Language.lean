import BoxOffice.Subscription
import Mathlib.Data.List.Forall2
import Mathlib.Data.Set.Defs

/-!
# The language of a pattern

A pattern stands for a set of routing keys, its language. A key belongs to it
when the key's words can be cut into consecutive pieces, one for each word of
the pattern in order: `#` takes any piece, the empty one included, `*` takes a
piece of one word, and every other word takes the piece that is this word alone.
Both texts are split at every dot, so leading, trailing and doubled dots make
empty words, and an empty text is one empty word.

`covers_iff` says that the search for such a cutting finds one whenever there
is one, `Pattern.matches_iff` that a pattern matches exactly the keys of its
language, and `accepts_languages` what a subscription takes.
-/

namespace BoxOffice.Routing

/-! ### Cuttings -/

/-- What one word of a pattern takes of a key. -/
inductive Takes : Word → List Word → Prop
  | any (piece : List Word) : Takes ['#'] piece
  | one (word : Word) : Takes ['*'] [word]
  | itself {word : Word} (no_hash : word ≠ ['#']) (no_star : word ≠ ['*']) : Takes word [word]

/-- The words of a key can be cut into pieces that the words of a pattern take. -/
def Cuts (pattern key : List Word) : Prop :=
  ∃ pieces : List (List Word), List.Forall₂ Takes pattern pieces ∧ pieces.flatten = key

/-- The keys that a pattern stands for. -/
def Pattern.language (p : Pattern) : Set String :=
  {key | Cuts (p.text.toList.splitOn '.') (key.toList.splitOn '.')}

theorem cuts_nil {key : List Word} : Cuts [] key ↔ key = [] := by
  constructor
  · rintro ⟨pieces, takes, rfl⟩
    cases takes
    rfl
  · rintro rfl
    exact ⟨[], .nil, rfl⟩

/-- The first word of a pattern takes what the key begins with, and the others
take the rest. -/
theorem cuts_cons {word : Word} {rest key : List Word} :
    Cuts (word :: rest) key ↔ ∃ piece later, piece ++ later = key ∧ Takes word piece ∧
      Cuts rest later := by
  constructor
  · rintro ⟨pieces, takes, rfl⟩
    cases takes with
    | @cons _ piece _ pieces takes others =>
        exact ⟨piece, pieces.flatten, rfl, takes, pieces, others, rfl⟩
  · rintro ⟨piece, later, rfl, takes, pieces, others, rfl⟩
    exact ⟨piece :: pieces, .cons takes others, rfl⟩

theorem takes_hash {piece : List Word} : Takes ['#'] piece := .any piece

/-- A word other than `#` takes one word: any word when it is `*`, else itself. -/
theorem takes_iff {word : Word} (no_hash : word ≠ ['#']) {piece : List Word} :
    Takes word piece ↔ ∃ first, piece = [first] ∧ (word = ['*'] ∨ word = first) := by
  constructor
  · intro takes
    cases takes with
    | any => exact absurd rfl no_hash
    | one first => exact ⟨first, rfl, .inl rfl⟩
    | itself => exact ⟨word, rfl, .inr rfl⟩
  · rintro ⟨first, rfl, star | rfl⟩
    · subst star
      exact .one first
    · by_cases star : word = ['*']
      · subst star
        exact .one _
      · exact .itself no_hash star

/-! ### The search -/

/-- The lists that are left when the first words are skipped are the ends of the
list. -/
theorem mem_suffixes {α : Type} {later list : List α} :
    later ∈ suffixes list ↔ ∃ skipped, skipped ++ later = list := by
  induction list with
  | nil =>
      rw [suffixes, List.mem_singleton]
      constructor
      · rintro rfl
        exact ⟨[], rfl⟩
      · rintro ⟨skipped, whole⟩
        exact (List.append_eq_nil_iff.mp whole).2
  | cons first others ih =>
      rw [suffixes, List.mem_cons, ih]
      constructor
      · rintro (rfl | ⟨skipped, rfl⟩)
        · exact ⟨[], rfl⟩
        · exact ⟨first :: skipped, rfl⟩
      · rintro ⟨skipped, whole⟩
        cases skipped with
        | nil => exact .inl whole
        | cons _ skipped => exact .inr ⟨skipped, (List.cons.inj whole).2⟩

/-- The search finds a cutting exactly when there is one. -/
theorem covers_iff (pattern key : List Word) : covers pattern key = true ↔ Cuts pattern key := by
  induction pattern generalizing key with
  | nil => rw [covers, List.isEmpty_iff, cuts_nil]
  | cons word rest ih =>
      rw [covers.eq_def, cuts_cons]
      dsimp only
      by_cases hash : word = ['#']
      · subst hash
        rw [if_pos rfl, List.any_eq_true]
        constructor
        · rintro ⟨later, ends, found⟩
          obtain ⟨skipped, whole⟩ := mem_suffixes.mp ends
          exact ⟨skipped, later, whole, takes_hash, (ih later).mp found⟩
        · rintro ⟨skipped, later, whole, -, cuts⟩
          exact ⟨later, mem_suffixes.mpr ⟨skipped, whole⟩, (ih later).mpr cuts⟩
      · rw [if_neg hash]
        cases key with
        | nil =>
            constructor
            · intro found
              cases found
            · rintro ⟨piece, later, whole, takes, -⟩
              obtain ⟨first, rfl, -⟩ := (takes_iff hash).mp takes
              cases whole
        | cons first others =>
            have here : (word = ['*'] || word = first) = true ↔ word = ['*'] ∨ word = first := by
              simp
            rw [Bool.and_eq_true, here, ih]
            constructor
            · rintro ⟨fits, cuts⟩
              exact ⟨[first], others, rfl, (takes_iff hash).mpr ⟨first, rfl, fits⟩, cuts⟩
            · rintro ⟨piece, later, whole, takes, cuts⟩
              obtain ⟨first', rfl, fits⟩ := (takes_iff hash).mp takes
              obtain ⟨rfl, rfl⟩ := List.cons.inj whole
              exact ⟨fits, cuts⟩

/-! ### Texts -/

/-- The words of a text are its pieces between the dots. -/
theorem words_eq_splitOn (text : List Char) : words text = text.splitOn '.' := by
  induction text with
  | nil => rfl
  | cons c text ih =>
      rw [words, List.splitOn_eq_splitOnP, List.splitOnP_cons_eq_if_modifyHead,
        ← List.splitOn_eq_splitOnP, ih]
      by_cases dot : c = '.'
      · subst dot
        simp
      · cases split : text.splitOn '.' with
        | nil => exact absurd split (List.splitOn_ne_nil '.' text)
        | cons word rest => simp [dot]

/-- A pattern matches the keys of its language and no others. -/
theorem Pattern.matches_iff (p : Pattern) (key : String) :
    p.matches key = true ↔ key ∈ p.language := by
  rw [Pattern.matches, covers_iff, words_eq_splitOn, words_eq_splitOn]
  exact Iff.rfl

end BoxOffice.Routing

namespace BoxOffice

/-- A subscription without bindings takes everything, and any other takes what
belongs to the language of one of its bindings. -/
theorem Subscription.accepts_iff (s : Subscription) (key : String) :
    s.accepts key = true ↔ s.bindings = [] ∨ ∃ p ∈ s.bindings, key ∈ p.language := by
  rw [Subscription.accepts, Bool.or_eq_true, List.isEmpty_iff, List.any_eq_true]
  refine or_congr_right (exists_congr fun p => and_congr_right fun _ => ?_)
  exact p.matches_iff key

/-- Patterns and subscriptions accept their languages: a pattern matches a key
if and only if the key's words can be cut into pieces that the pattern's words
take in order, and a subscription takes a key if and only if it has no bindings
or the key is in the language of one of them. -/
theorem Subscription.accepts_languages :
    (∀ (p : Routing.Pattern) (key : String), p.matches key = true ↔
      ∃ pieces : List (List Routing.Word),
        List.Forall₂ Routing.Takes (p.text.toList.splitOn '.') pieces ∧
          pieces.flatten = key.toList.splitOn '.') ∧
    ∀ (s : Subscription) (key : String), s.accepts key = true ↔
      s.bindings = [] ∨ ∃ p ∈ s.bindings, key ∈ p.language :=
  ⟨fun p key => p.matches_iff key, fun s key => s.accepts_iff key⟩

/-- Several `#` in one pattern, the first for no word and the second for two
words of which one is empty. -/
example : (⟨"#.event.#.updated"⟩ : Routing.Pattern).matches "event.seats..updated" = true := by
  cbv

end BoxOffice
