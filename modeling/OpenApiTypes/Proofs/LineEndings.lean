import OpenApiTypes.Proofs.Cutting
import OpenApiTypes.Text.Blank

/-!
# JSON text and the ends of its lines

A line may end with a line feed, a carriage return, or both. Between tokens each of these is a gap,
and two gaps in a row are as good as one. Inside of a string none of them may stand, whichever it
is: alone they are control characters, behind a backslash they are no escape, and among the digits
of a code unit they are no digits. So a text may be read with all of its line endings written as
line feeds. The same value comes out, or the same is wrong with the text, though perhaps at another
place of it.
-/
namespace OpenApiTypes.Text

variable {c : Char} {text : List Char}

/-- A character that is no carriage return stays in front of the others. -/
theorem unifyNewlines_cons (goesOn : c ≠ '\r') (rest : List Char) :
    unifyNewlines (c :: rest) = c :: unifyNewlines rest := by
  rw [unifyNewlines.eq_4] <;> simp [goesOn]

/-- A carriage return becomes a line feed, which takes the place of a line feed behind it, if there
is one. -/
theorem exists_unifyNewlines_return (rest : List Char) : ∃ tail,
    unifyNewlines ('\r' :: rest) = '\n' :: tail ∧
      (unifyNewlines rest = tail ∨ unifyNewlines rest = '\n' :: tail) := by
  cases rest with
  | nil => exact ⟨[], rfl, .inl rfl⟩
  | cons next rest =>
    by_cases feed : next = '\n'
    · subst feed
      exact ⟨unifyNewlines rest, by rw [unifyNewlines],
        .inr (unifyNewlines_cons (by decide) rest)⟩
    · exact ⟨unifyNewlines (next :: rest), by rw [unifyNewlines]; simpa using feed, .inl rfl⟩

/-- The first character stays, unless it is a carriage return. In particular a byte order mark is
there afterwards exactly if it was there before. -/
theorem head?_unifyNewlines (text : List Char) :
    (unifyNewlines text).head? = text.head?.map fun c => if c = '\r' then '\n' else c := by
  cases text with
  | nil => rfl
  | cons c rest =>
    by_cases ends : c = '\r'
    · subst ends
      obtain ⟨tail, same, _⟩ := exists_unifyNewlines_return rest
      rw [same]
      rfl
    · rw [unifyNewlines_cons ends, List.head?_cons, List.head?_cons, Option.map_some, if_neg ends]

/-- No text loses all of its characters, since each line break leaves one behind. -/
theorem unifyNewlines_eq_nil_iff : unifyNewlines text = [] ↔ text = [] := by
  rw [← List.head?_eq_none_iff, head?_unifyNewlines, Option.map_eq_none_iff,
    List.head?_eq_none_iff]

/-- A character that ends no line comes from itself, and what is behind it comes from what was
behind it. -/
theorem exists_of_unifyNewlines_eq_cons {tail : List Char}
    (same : unifyNewlines text = c :: tail) (goesOn : c ≠ '\n') :
    ∃ rest, text = c :: rest ∧ unifyNewlines rest = tail := by
  cases text with
  | nil => cases same
  | cons first rest =>
    by_cases ends : first = '\r'
    · subst ends
      obtain ⟨_, feed, _⟩ := exists_unifyNewlines_return rest
      rw [feed] at same
      exact (goesOn (List.cons.inj same).1.symm).elim
    · rw [unifyNewlines_cons ends] at same
      obtain ⟨rfl, rfl⟩ := List.cons.inj same
      exact ⟨rest, rfl, rfl⟩

/-- Characters that end no line stay, however many of them stand in front. -/
theorem unifyNewlines_append {front : List Char} (goOn : ∀ c ∈ front, c ≠ '\r')
    (rest : List Char) : unifyNewlines (front ++ rest) = front ++ unifyNewlines rest := by
  induction front with
  | nil => rfl
  | cons first front ih =>
    rw [List.forall_mem_cons] at goOn
    rw [List.cons_append, unifyNewlines_cons goOn.1, ih goOn.2, List.cons_append]

/-- Characters that end no line come from themselves, one after the other. -/
theorem exists_of_unifyNewlines_eq_append {front tail : List Char}
    (same : unifyNewlines text = front ++ tail) (goOn : ∀ c ∈ front, c ≠ '\n') :
    ∃ rest, text = front ++ rest ∧ unifyNewlines rest = tail := by
  induction front generalizing text with
  | nil => exact ⟨text, rfl, same⟩
  | cons first front ih =>
    rw [List.forall_mem_cons] at goOn
    obtain ⟨behind, rfl, sameBehind⟩ := exists_of_unifyNewlines_eq_cons same goOn.1
    obtain ⟨rest, rfl, sameRest⟩ := ih sameBehind goOn.2
    exact ⟨rest, rfl, sameRest⟩

/-- No digit ends a line, so the digits of an escape are the same before and after line breaks are
unified. -/
theorem ne_newline_of_hexNumber? {digits : List Char} {value : Nat}
    (isNumber : hexNumber? digits = some value) (there : c ∈ digits) : c ≠ '\r' ∧ c ≠ '\n' := by
  have isDigit : (hexValue? c).isSome := isSome_hexValue?_of_mem isNumber there
  constructor <;>
  · rintro rfl
    cases isDigit

end OpenApiTypes.Text

namespace OpenApiTypes.Json

open Text (unifyNewlines unifyNewlines_cons exists_unifyNewlines_return)

variable {state other : LexState} {place otherPlace start otherStart : Nat} {seen : List Nat}
  {text rest : List Char}

/-- The code unit of four digits is no matter of line endings: it is found before and after with the
same value, or neither time. -/
theorem hexUnit?_unifyNewlines (text : List Char) :
    hexUnit? (unifyNewlines text) =
      (hexUnit? text).map fun read => (read.1, unifyNewlines read.2) := by
  apply Option.ext
  rintro ⟨unit, tail⟩
  rw [hexUnit?_eq_some_iff, Option.map_eq_some_iff]
  constructor
  · rintro ⟨a, b, c, d, same, more, isNumber⟩
    obtain ⟨rest, rfl, rfl⟩ := Text.exists_of_unifyNewlines_eq_append same fun _ there =>
      (Text.ne_newline_of_hexNumber? isNumber there).2
    have restMore : rest ≠ [] := fun empty => more (Text.unifyNewlines_eq_nil_iff.2 empty)
    exact ⟨(unit, rest), hexUnit?_eq_some_iff.2 ⟨a, b, c, d, rfl, restMore, isNumber⟩, rfl⟩
  · rintro ⟨⟨_, rest⟩, read, same⟩
    obtain ⟨rfl, rfl⟩ := Prod.mk.inj same
    obtain ⟨a, b, c, d, rfl, more, isNumber⟩ := hexUnit?_eq_some_iff.1 read
    have stay := Text.unifyNewlines_append
      (fun _ there => (Text.ne_newline_of_hexNumber? isNumber there).1) rest
    exact ⟨a, b, c, d, stay, fun empty => more (Text.unifyNewlines_eq_nil_iff.1 empty), isNumber⟩

/-- The tokens of a text stay what they are when its line endings are made the same, in whatever
state and at whatever place its cutting begins. Only their places change. -/
def KeepsTokens (text : List Char) : Prop :=
  ∀ {state other : LexState}, state.Alike other → ∀ place otherPlace,
    (lex state place text).map unplaced =
      (lex other otherPlace (unifyNewlines text)).map unplaced

/-- Outside of strings every line ending is a gap. A line feed that goes with a carriage return is
one gap less, which finishes no word, since the first gap has done so. -/
theorem KeepsTokens.cons_outside (behind : KeepsTokens rest) (alike : state.Alike other)
    (outside : state.isOutside = true) (place otherPlace : Nat) (c : Char) :
    (lex state place (c :: rest)).map unplaced =
      (lex other otherPlace (unifyNewlines (c :: rest))).map unplaced := by
  have otherOutside : other.isOutside = true := alike.isOutside outside
  cases blank : isGap c with
  | true =>
    rw [lex_outside_gap outside blank, List.map_append, alike.finished]
    by_cases ends : c = '\r'
    · subst ends
      obtain ⟨tail, same, alone | pair⟩ := exists_unifyNewlines_return rest
      · rw [same, lex_outside_gap otherOutside rfl, List.map_append, ← alone, behind .gap]
      · -- the line feed of the pair is one more gap, which the other text lacks
        have next := behind .gap (place + 1) otherPlace
        rw [pair, lex_outside_gap rfl rfl] at next
        rw [same, lex_outside_gap otherOutside rfl, List.map_append, next]
        rfl
    · rw [unifyNewlines_cons ends, lex_outside_gap otherOutside blank, List.map_append,
        behind .gap]
  | false =>
    have goesOn : c ≠ '\r' := by
      rintro rfl
      cases blank
    rw [unifyNewlines_cons goesOn]
    by_cases quote : c = '"'
    · subst quote
      rw [lex_outside_quote outside, lex_outside_quote otherOutside, List.map_append,
        List.map_append, alike.finished, behind .string]
    · rw [lex_outside_solid outside blank quote, lex_outside_solid otherOutside blank quote]
      cases punctuation? c with
      | some token =>
        rw [List.map_append, List.map_append, List.map_cons, List.map_cons, alike.finished,
          unplaced_eq place otherPlace, behind .gap]
      | none => exact behind (alike.extended place otherPlace c) _ _

/-- Behind a backslash no line ends. An escape of a line ending is an error either way, and the same
one. -/
theorem keepsTokens_escape
    (shorter : ∀ behind : List Char, behind.length ≤ rest.length → KeepsTokens behind) :
    (lex (.string start seen) place ('\\' :: rest)).map unplaced =
      (lex (.string otherStart seen) otherPlace ('\\' :: unifyNewlines rest)).map unplaced := by
  match rest with
  | [] => rfl
  | letter :: rest =>
    by_cases unit : letter = 'u'
    · subst unit
      rw [unifyNewlines_cons (by decide), lex_string_unit, lex_string_unit,
        hexUnit?_unifyNewlines]
      cases read : hexUnit? rest with
      | none => rfl
      | some behind =>
        have less : behind.2.length < rest.length := length_lt_of_hexUnit? read
        exact shorter behind.2 (by rw [List.length_cons]; omega) .string _ _
    by_cases ends : letter = '\r'
    · subst ends
      obtain ⟨tail, same, _⟩ := exists_unifyNewlines_return rest
      rw [same]
      rfl
    · rw [unifyNewlines_cons ends, lex_string_escape unit, lex_string_escape unit]
      cases simpleEscape? letter with
      | none => rfl
      | some meant => exact shorter rest (Nat.le_succ _) .string _ _

/-- Inside of a string no line ends: a line feed and a carriage return are both control characters
there. -/
theorem keepsTokens_string
    (shorter : ∀ behind : List Char, behind.length < text.length → KeepsTokens behind) :
    (lex (.string start seen) place text).map unplaced =
      (lex (.string otherStart seen) otherPlace (unifyNewlines text)).map unplaced := by
  match text with
  | [] => rfl
  | c :: rest =>
    have behind : KeepsTokens rest := shorter rest (Nat.lt_succ_self _)
    by_cases ends : c = '\r'
    · subst ends
      obtain ⟨tail, same, _⟩ := exists_unifyNewlines_return rest
      rw [same]
      rfl
    rw [unifyNewlines_cons ends]
    by_cases quote : c = '"'
    · subst quote
      rw [lex, lex, List.map_cons, List.map_cons, behind .gap]
      rfl
    by_cases escape : c = '\\'
    · subst escape
      exact keepsTokens_escape fun behind less => shorter behind (Nat.lt_succ_of_le less)
    rw [lex_string_char quote escape, lex_string_char quote escape]
    split
    · rfl
    · exact behind .string _ _

/-- Line endings do not matter to the tokens. The induction is on the length of the text, as an
escape takes several characters with it. -/
theorem keepsTokens (text : List Char) : KeepsTokens text := by
  intro state other alike place otherPlace
  cases outside : state.isOutside with
  | true =>
    cases text with
    | nil =>
      rw [unifyNewlines, lex_outside_nil outside, lex_outside_nil (alike.isOutside outside),
        alike.finished]
    | cons c rest =>
      exact KeepsTokens.cons_outside (keepsTokens rest) alike outside place otherPlace c
  | false =>
    cases alike with
    | string => exact keepsTokens_string fun behind shorter => keepsTokens behind
    | _ => cases outside
termination_by text.length

/-- The value that a text denotes does not depend on how its lines end, and neither does what is
wrong with it. Only the place at which something is wrong may be another one. -/
theorem parse_unifyNewlines (text : String) :
    (parse (String.ofList (unifyNewlines text.toList))).mapError
        (Unreadable.map SyntaxError.problem) =
      (parse text).mapError (Unreadable.map SyntaxError.problem) := by
  have same : (tokens text.toList).map unplaced =
      (tokens (unifyNewlines text.toList)).map unplaced := keepsTokens text.toList .gap 0 0
  have mark : (unifyNewlines text.toList).head? = some '\uFEFF' ↔
      text.toList.head? = some '\uFEFF' := by
    rw [Text.head?_unifyNewlines]
    cases text.toList.head? with
    | none => rfl
    | some c =>
      by_cases ends : c = '\r'
      · subst ends
        decide
      · rw [Option.map_some, if_neg ends]
  rw [mapError_parse, mapError_parse, String.toList_ofList]
  simp only [mark]
  rw [withoutPlace_run same.symm]

/-- A text and the same text with its line endings made the same denote one value, or have the same
problem, or exceed the same limit. -/
theorem parse_unifyNewlines_cases (text : String) :
    let unified := String.ofList (unifyNewlines text.toList)
    (∃ value, parse unified = .ok value ∧ parse text = .ok value) ∨
      (∃ error otherError, error.problem = otherError.problem ∧
        parse unified = .error (.malformed error) ∧ parse text = .error (.malformed otherError)) ∨
      ∃ limit, parse unified = .error (.beyond limit) ∧ parse text = .error (.beyond limit) := by
  intro unified
  have same : (parse unified).mapError (Unreadable.map SyntaxError.problem) =
      (parse text).mapError (Unreadable.map SyntaxError.problem) := parse_unifyNewlines text
  cases here : parse unified with
  | ok value =>
    cases there : parse text with
    | ok otherValue =>
      rw [here, there] at same
      obtain rfl : value = otherValue := Except.ok.inj same
      exact .inl ⟨value, rfl, rfl⟩
    | error failure =>
      rw [here, there] at same
      cases same
  | error failure =>
    cases there : parse text with
    | ok value =>
      rw [here, there] at same
      cases same
    | error otherFailure =>
      rw [here, there] at same
      cases failure with
      | malformed error =>
        cases otherFailure with
        | malformed otherError =>
          have problems : error.problem = otherError.problem :=
            Unreadable.malformed.inj (Except.error.inj same)
          exact .inr (.inl ⟨error, otherError, problems, rfl, rfl⟩)
        | beyond limit => cases same
      | beyond limit =>
        cases otherFailure with
        | malformed otherError => cases same
        | beyond otherLimit =>
          obtain rfl : limit = otherLimit := Unreadable.beyond.inj (Except.error.inj same)
          exact .inr (.inr ⟨limit, rfl, rfl⟩)

end OpenApiTypes.Json
