import Mathlib.Data.List.Induction
import OpenApiTypes.Json.Parser

/-!
# How a text is cut into tokens

One equation for every kind of step. Outside of strings a character ends the word before it or goes
on with it, and it does not matter whether there is such a word. Inside of a string a backslash
takes up to five more characters with it.

A cutter and a reader count places only to report them. Without its places a token says what it is,
and a reading comes out the same from the same tokens, wherever they stand.
-/
namespace OpenApiTypes.Text

/-- A number in hexadecimal digits is sixteen times the number without its last digit, and that
digit. -/
theorem hexNumber?_concat (digits : List Char) (last : Char) :
    hexNumber? (digits ++ [last]) = do
      return 16 * (← hexNumber? digits) + (← hexValue? last) := by
  rw [hexNumber?, List.foldl_append]
  rfl

/-- Only hexadecimal digits make a number. One other character among them, and there is none. -/
theorem isSome_hexValue?_of_mem {c : Char} {digits : List Char} {value : Nat}
    (isNumber : hexNumber? digits = some value) (there : c ∈ digits) : (hexValue? c).isSome := by
  induction digits using List.reverseRecOn generalizing value with
  | nil => cases there
  | append_singleton digits last ih =>
    rw [hexNumber?_concat] at isNumber
    cases before : hexNumber? digits with
    | none => simp [before] at isNumber
    | some higher =>
      cases digit : hexValue? last with
      | none => simp [before, digit] at isNumber
      | some lowest =>
        rcases List.mem_append.1 there with earlier | isLast
        · exact ih before earlier
        · rw [List.mem_singleton.1 isLast, digit]
          rfl

end OpenApiTypes.Text

namespace OpenApiTypes.Json

/-- The code unit of four digits, if there is more text behind them. An escape at the very end of a
text is of no use, since the string would not be closed. -/
def hexUnit? : List Char → Option (Nat × List Char)
  | a :: b :: c :: d :: e :: rest =>
    (Text.hexNumber? [a, b, c, d]).map fun unit => (unit, e :: rest)
  | _ => none

/-- A code unit is four hexadecimal digits with more text behind them. A text that ends with the
fourth digit has no code unit at its front. -/
theorem hexUnit?_eq_some_iff {text rest : List Char} {unit : Nat} :
    hexUnit? text = some (unit, rest) ↔ ∃ a b c d, text = [a, b, c, d] ++ rest ∧ rest ≠ [] ∧
      Text.hexNumber? [a, b, c, d] = some unit := by
  constructor
  · intro read
    unfold hexUnit? at read
    split at read
    · next a b c d e rest =>
      obtain ⟨unit, isNumber, same⟩ := Option.map_eq_some_iff.1 read
      obtain ⟨rfl, rfl⟩ := Prod.mk.inj same
      exact ⟨a, b, c, d, rfl, List.cons_ne_nil _ _, isNumber⟩
    · cases read
  · rintro ⟨a, b, c, d, rfl, more, isNumber⟩
    obtain ⟨e, rest, rfl⟩ := List.exists_cons_of_ne_nil more
    simp [hexUnit?, isNumber]

/-- Behind a code unit there is less text. This is why the recursion on strings ends. -/
theorem length_lt_of_hexUnit? {text : List Char} {read : Nat × List Char}
    (isUnit : hexUnit? text = some read) : read.2.length < text.length := by
  obtain ⟨a, b, c, d, rfl, _⟩ := hexUnit?_eq_some_iff.1 isUnit
  simp only [List.length_append, List.length_cons]
  omega

namespace LexState

/-- Outside of strings, where a line break is a gap like any other. -/
def isOutside : LexState → Bool
  | gap | word _ _ => true
  | string _ _ => false

/-- The tokens of a word that ends. Where no word is being read there are none. -/
def finished : LexState → List PlacedToken
  | gap | string _ _ => []
  | word start seen => wordTokens start seen.reverse

/-- The state behind one more character of a word, which may be its first. -/
def extended (place : Nat) (c : Char) : LexState → LexState
  | gap => word place [c]
  | word start seen => word start (c :: seen)
  | string start seen => string start seen

/-- States that differ at most in the place where a word or a string begins. From alike states the
same text gives the same tokens, apart from places. -/
inductive Alike : LexState → LexState → Prop
  | gap : Alike gap gap
  | word {start otherStart : Nat} {seen : List Char} :
      Alike (word start seen) (word otherStart seen)
  | string {start otherStart : Nat} {seen : List Nat} :
      Alike (string start seen) (string otherStart seen)

end LexState

variable {state other : LexState} {place start : Nat} {seen : List Nat} {c : Char}
  {text rest : List Char}

/-- At the end of a text the last word is finished, if there is one. A gap there leaves nothing to
finish. -/
theorem lex_outside_nil (outside : state.isOutside = true) :
    lex state place [] = state.finished := by
  cases state with
  | string => cases outside
  | _ => rw [lex, LexState.finished]

/-- A gap outside of strings finishes the word before it. Which of the four blanks it is makes no
difference. -/
theorem lex_outside_gap (outside : state.isOutside = true) (blank : isGap c = true) :
    lex state place (c :: rest) = state.finished ++ lex .gap (place + 1) rest := by
  cases state with
  | string => cases outside
  | _ =>
    rw [lex, if_pos blank]
    rfl

/-- A quote outside of strings finishes the word before it and begins a string. -/
theorem lex_outside_quote (outside : state.isOutside = true) :
    lex state place ('"' :: rest) =
      state.finished ++ lex (.string place []) (place + 1) rest := by
  cases state with
  | string => cases outside
  | _ =>
    rw [lex, if_neg (by decide), if_pos (by decide)]
    rfl

/-- Any other character outside of strings is a token by itself, which finishes the word before it,
or goes on with that word. -/
theorem lex_outside_solid (outside : state.isOutside = true) (solid : isGap c = false)
    (plain : c ≠ '"') : lex state place (c :: rest) =
      match punctuation? c with
      | some token => state.finished ++ (place, token) :: lex .gap (place + 1) rest
      | none => lex (state.extended place c) (place + 1) rest := by
  cases state with
  | string => cases outside
  | _ =>
    cases mark : punctuation? c <;>
      simp [lex, solid, plain, mark, LexState.finished, LexState.extended]

/-- Behind a backslash and the letter of a code unit there are four digits and more text. -/
theorem lex_string_unit : lex (.string start seen) place ('\\' :: 'u' :: text) =
    match hexUnit? text with
    | some (unit, rest) => lex (.string start (unit :: seen)) (place + 6) rest
    | none => [(start, .invalid .unicodeEscape (place + 1))] := by
  match text with
  | a :: b :: c :: d :: e :: rest =>
    cases isNumber : Text.hexNumber? [a, b, c, d] <;> simp [lex, hexUnit?, isNumber]
  | [] | [_] | [_, _] | [_, _, _] => rfl
  | [_, _, _, _] => simp [lex, hexUnit?]

/-- A backslash inside of a string takes the letter behind it along, and the two are one character
or an error. -/
theorem lex_string_escape (short : c ≠ 'u') : lex (.string start seen) place ('\\' :: c :: rest) =
    match simpleEscape? c with
    | some meant => lex (.string start (meant.toNat :: seen)) (place + 2) rest
    | none => [(start, .invalid .unknownEscape place)] := by
  cases meaning : simpleEscape? c <;> simp [lex, short, meaning]

/-- Any other character inside of a string stands for itself, unless it is a control character. -/
theorem lex_string_char (plain : c ≠ '"') (literal : c ≠ '\\') :
    lex (.string start seen) place (c :: rest) =
      if c.toNat < 0x20 then [(start, .invalid .controlCharacter place)]
      else lex (.string start (c.toNat :: seen)) (place + 1) rest := by
  rw [lex] <;> simp [plain, literal]

/-- A token without its place, and without the place of the fault where it is one. -/
def unplaced : PlacedToken → Token
  | (_, .invalid problem _) => .invalid problem 0
  | (_, token) => token

/-- Without its place a token is the same wherever it stands. For a fault the place of the fault is
dropped as well. -/
theorem unplaced_eq (place otherPlace : Nat) (token : Token) :
    unplaced (place, token) = unplaced (otherPlace, token) := by
  cases token <;> rfl

/-- A word gives the same tokens wherever it starts, but for their places. -/
theorem map_unplaced_wordTokens (start otherStart : Nat) (word : List Char) :
    (wordTokens start word).map unplaced = (wordTokens otherStart word).map unplaced := by
  unfold wordTokens
  split <;> rfl

namespace LexState.Alike

/-- States that differ in places only are both inside of a string or both outside. -/
theorem isOutside (alike : state.Alike other) (outside : state.isOutside = true) :
    other.isOutside = true := by
  cases alike <;> exact outside

/-- States that differ in places only finish their words by the same tokens, but for the places of
these. -/
theorem finished (alike : state.Alike other) :
    state.finished.map unplaced = other.finished.map unplaced := by
  cases alike with
  | word => exact map_unplaced_wordTokens _ _ _
  | _ => rfl

/-- One more character takes states that differ in places only to states that differ in places only.
-/
theorem extended (alike : state.Alike other) (place otherPlace : Nat) (c : Char) :
    (state.extended place c).Alike (other.extended otherPlace c) := by
  cases alike <;> constructor

end LexState.Alike

/-- An outcome without the place of what is wrong. A value has no place, so it stays as it is. -/
def withoutPlace {α : Type} :
    Except (Unreadable (SyntaxProblem × Nat)) α → Except (Unreadable SyntaxProblem) α :=
  Except.mapError (Unreadable.map Prod.fst)

variable {expected : Expectation} {frames : List Frame}

/-- The beginning of a value is read in the same way wherever its token stands. -/
theorem withoutPlace_beginValue (place : Nat) (token : Token) :
    withoutPlace (beginValue frames (place, token)) =
      withoutPlace (beginValue frames (0, unplaced (place, token))) := by
  cases token <;> rfl

/-- A name is read in the same way wherever its token stands. Only the place that is reported with a
problem differs. -/
theorem withoutPlace_readName {before : List (Text × Json)} (place : Nat) (token : Token) :
    withoutPlace (readName before frames (place, token)) =
      withoutPlace (readName before frames (0, unplaced (place, token))) := by
  cases token with
  | invalid problem => cases problem <;> rfl
  | _ => rfl

/-- One step of a reading depends on what its token says and not on its place, except for the place
in a report. The cases are what a reader may expect. -/
theorem withoutPlace_step (token : PlacedToken) :
    withoutPlace (step expected frames token) =
      withoutPlace (step expected frames (0, unplaced token)) := by
  obtain ⟨place, token⟩ := token
  cases expected with
  | value => exact withoutPlace_beginValue place token
  | itemOrClose => cases token <;> rcases frames with _ | ⟨_ | _, _⟩ <;> rfl
  | memberOrClose =>
    cases token with
    | invalid problem => cases problem <;> rfl
    | _ => rfl
  | member before => exact withoutPlace_readName place token
  | colon before name => cases token <;> rfl
  | next finished => cases token <;> rcases frames with _ | ⟨_ | _, _⟩ <;> rfl

/-- Reading depends on the tokens and not on their places, except for the place in a report.

Proof: induction over the tokens. Two tokens that are the same without their places take a state to
the same next one, or both stop the reading for the same problem. -/
theorem withoutPlace_run {stop otherStop : Nat} {tokens others : List PlacedToken}
    (same : tokens.map unplaced = others.map unplaced) :
    withoutPlace (run stop expected frames tokens) =
      withoutPlace (run otherStop expected frames others) := by
  induction tokens generalizing expected frames others with
  | nil =>
    obtain rfl := List.map_eq_nil_iff.1 same.symm
    cases expected with
    | next finished => cases frames <;> rfl
    | _ => rfl
  | cons token tokens ih =>
    obtain ⟨other, others, rfl, first, rest⟩ := List.map_eq_cons_iff.1 same.symm
    have steps : withoutPlace (step expected frames token) =
        withoutPlace (step expected frames other) := by
      rw [withoutPlace_step token, withoutPlace_step other, first]
    rw [run, run]
    cases taken : step expected frames token with
    | ok next =>
      cases otherTaken : step expected frames other with
      | ok otherNext =>
        rw [taken, otherTaken] at steps
        obtain rfl : next = otherNext := Except.ok.inj steps
        exact ih rest.symm
      | error otherFailure =>
        rw [taken, otherTaken] at steps
        cases steps
    | error failure =>
      cases otherTaken : step expected frames other with
      | ok otherNext =>
        rw [taken, otherTaken] at steps
        cases steps
      | error otherFailure =>
        rw [taken, otherTaken] at steps
        exact congrArg Except.error (Except.error.inj steps)

/-- What a text denotes, or what is wrong with it, wherever that is: a mark of the byte order is
refused at once, and everything else is a run over the tokens. -/
theorem mapError_parse (text : String) :
    (parse text).mapError (Unreadable.map SyntaxError.problem) =
      if text.toList.head? = some '\uFEFF' then .error (.malformed .byteOrderMark)
      else withoutPlace (run text.toList.length .value [] (tokens text.toList)) := by
  unfold parse
  by_cases mark : text.toList.head? = some '\uFEFF'
  · simp only [if_pos mark]
    rfl
  · simp only [if_neg mark]
    cases run text.toList.length .value [] (tokens text.toList) with
    | ok value => rfl
    | error failure => cases failure <;> rfl

end OpenApiTypes.Json
