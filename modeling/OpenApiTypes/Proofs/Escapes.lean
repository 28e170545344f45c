import Mathlib.Data.List.Basic
import Mathlib.Tactic.SplitIfs
import OpenApiTypes.Text.Escaped

/-!
# How texts stand in literals

A character stands in a literal for itself, as a letter behind a backslash, or as one or two code
units behind a backslash and a `u` each, and a surrogate as the code unit that it is. So a literal
is written in printable ASCII, and only the two quotes around it have no backslash before them.
-/
namespace OpenApiTypes.Text

variable {character : Char}

/-- The characters that are written as a letter behind a backslash, each with that letter. -/
def shortEscapes : List (Char × Char) :=
  [('"', '"'), ('\\', '\\'), ('\n', 'n'), ('\r', 'r'), ('\t', 't'), ('\x08', 'b'), ('\x0c', 'f')]

/-- The three ways in which a character is written inside a literal. -/
inductive Escape (character : Char) : List Char → Prop where
  | short (letter : Char) (listed : (character, letter) ∈ shortEscapes) :
      Escape character ['\\', letter]
  | itself (quote : character ≠ '"') (backslash : character ≠ '\\')
      (printable : 0x20 ≤ character.toNat ∧ character.toNat ≤ 0x7E) : Escape character [character]
  | units : Escape character ((utf16Units character).flatMap unitEscape)

/-- Every character is written in one of these ways, so a law about literals is a law about each of
them. -/
theorem escape_escapedChar : Escape character (escapedChar character) := by
  have short (meant letter : Char) (same : (character == meant) = true)
      (listed : (meant, letter) ∈ shortEscapes) : Escape character ['\\', letter] :=
    .short letter (eq_of_beq same ▸ listed)
  unfold escapedChar
  split_ifs with quote backslash lineFeed carriageReturn tab backspace formFeed printable
  · exact short _ _ quote (by decide)
  · exact short _ _ backslash (by decide)
  · exact short _ _ lineFeed (by decide)
  · exact short _ _ carriageReturn (by decide)
  · exact short _ _ tab (by decide)
  · exact short _ _ backspace (by decide)
  · exact short _ _ formFeed (by decide)
  · exact .itself (by simpa using quote) (by simpa using backslash) (by simpa using printable)
  · exact .units

/-- A character beyond those that have a single code unit is written by its two units: it has no
short escape, and it is not printable ASCII. -/
theorem escapedChar_of_large (large : 0x10000 ≤ character.toNat) :
    escapedChar character = (utf16Units character).flatMap unitEscape := by
  have short : ∀ entry ∈ shortEscapes, entry.1.toNat < 0x80 := by decide
  have way : Escape character (escapedChar character) := escape_escapedChar
  generalize escapedChar character = written at way
  cases way with
  | short letter listed =>
    have small := short _ listed
    dsimp only at small
    omega
  | itself quote backslash printable => omega
  | units => rfl

/-- The digits of a numeral are those of values below sixteen. So what is to be known about them
takes sixteen cases. -/
theorem mem_hexadecimal {width value : Nat} (there : character ∈ hexadecimal width value) :
    ∃ digit < 16, character = hexDigit digit := by
  induction width generalizing value with
  | zero => cases there
  | succ width ih =>
    rcases List.mem_append.1 there with higher | lowest
    · exact ih higher
    · exact ⟨value % 16, Nat.mod_lt _ (by decide), List.mem_singleton.1 lowest⟩

/-- A code unit is written with a backslash, a `u` and hexadecimal digits, and with nothing else. -/
theorem mem_unitEscape {unit : Nat} (there : character ∈ unitEscape unit) :
    character = '\\' ∨ character = 'u' ∨ ∃ digit < 16, character = hexDigit digit := by
  rw [unitEscape, List.mem_cons, List.mem_cons] at there
  rcases there with backslash | letter | digit
  · exact .inl backslash
  · exact .inr (.inl letter)
  · exact .inr (.inr (mem_hexadecimal digit))

/-- Every code point is written with something, so no text has a literal shorter than itself. -/
theorem escapedPoint_ne_nil (point : CodePoint) : escapedPoint point ≠ [] := by
  cases point with
  | char character =>
    have way : Escape character (escapedChar character) := escape_escapedChar
    rw [escapedPoint]
    generalize escapedChar character = written at way
    cases way with
    | short letter listed => simp
    | itself quote backslash printable => simp
    | units =>
      unfold utf16Units
      split <;> simp [unitEscape]
  | surrogate half => simp [escapedPoint, unitEscape]

/-- A literal is written in printable ASCII, whatever its text is. So it has no line breaks, and its
bytes are a text in every encoding that keeps ASCII. -/
theorem printable_of_mem_literal {text : Text} (there : character ∈ (literal text).toList) :
    0x20 ≤ character.toNat ∧ character.toNat ≤ 0x7E := by
  have letters : ∀ entry ∈ shortEscapes, 0x20 ≤ entry.2.toNat ∧ entry.2.toNat ≤ 0x7E := by decide
  have digits : ∀ digit < 16, 0x20 ≤ (hexDigit digit).toNat ∧ (hexDigit digit).toNat ≤ 0x7E := by
    decide
  have inUnit {unit : Nat} (written : character ∈ unitEscape unit) :
      0x20 ≤ character.toNat ∧ character.toNat ≤ 0x7E := by
    rcases mem_unitEscape written with rfl | rfl | ⟨value, small, rfl⟩
    · decide
    · decide
    · exact digits value small
  have inside {meant : Char} (written : character ∈ escapedChar meant) :
      0x20 ≤ character.toNat ∧ character.toNat ≤ 0x7E := by
    have way : Escape meant (escapedChar meant) := escape_escapedChar
    generalize escapedChar meant = text at written way
    cases way with
    | short letter listed =>
      rcases List.mem_pair.1 written with rfl | rfl
      · decide
      · exact letters _ listed
    | itself quote backslash printable => exact List.mem_singleton.1 written ▸ printable
    | units =>
      obtain ⟨unit, _, isEscape⟩ := List.mem_flatMap.1 written
      exact inUnit isEscape
  rw [literal, String.toList_ofList, List.mem_append, List.mem_cons] at there
  rcases there with (rfl | body) | last
  · decide
  · obtain ⟨meant, _, written⟩ := List.mem_flatMap.1 body
    cases meant with
    | char meant => exact inside written
    | surrogate half => exact inUnit written
  · rw [List.mem_singleton.1 last]
    decide

end OpenApiTypes.Text
