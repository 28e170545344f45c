import OpenApiTypes.Json.Text
import OpenApiTypes.Proofs.Composition
import OpenApiTypes.Proofs.Delimited
import OpenApiTypes.Proofs.Escapes
import OpenApiTypes.Proofs.LineEndings

/-!
# What is written as JSON is read back

The code units of an escape are put together to the character that they came from, so a literal is
one token, which is the text itself in its composed form. A reader that expects a value takes the
text of one and then has that value, whatever is open around it and whatever follows. This goes up
from texts to objects of texts and on to objects of objects, as long as no more of them are open at
once than a reader can hold.

Since a literal can be read, it denotes one composed text only.
-/
namespace OpenApiTypes

namespace Text

/-- Four digits are read as the code unit that they were written for. The units are below 0x10000,
so four are enough. -/
theorem hexNumber?_hexadecimal {unit : Nat} (small : unit < 0x10000) :
    hexNumber? (hexadecimal 4 unit) = some unit := by
  have digits : ∀ digit < 16, hexValue? (hexDigit digit) = some digit := by decide
  have digit (value : Nat) : hexValue? (hexDigit (value % 16)) = some (value % 16) :=
    digits _ (Nat.mod_lt _ (by decide))
  simp [hexadecimal, hexNumber?, digit]
  omega

/-- A character has code units that four digits can hold, one below 0x10000 or two surrogates. -/
theorem lt_of_mem_utf16Units {character : Char} {unit : Nat}
    (there : unit ∈ utf16Units character) : unit < 0x10000 := by
  have bounds := CodePoint.toNat_bounds character
  unfold utf16Units at there
  split at there
  · next single => rwa [List.mem_singleton.1 there]
  · simp only [List.mem_cons, List.not_mem_nil, or_false] at there
    omega

/-- The first code unit of a code point is a low surrogate only where the code point is one. -/
theorem unitsOf_eq_cons (point : CodePoint) : ∃ unit units, unitsOf point = unit :: units ∧
    (0xDC00 ≤ unit → unit < 0xE000 →
      ∃ half : Surrogate, point = .surrogate half ∧ 0x400 ≤ half.val) := by
  cases point with
  | char character =>
    have bounds := CodePoint.toNat_bounds character
    by_cases single : character.toNat < 0x10000
    · refine ⟨character.toNat, [], if_pos single, fun low _ => ?_⟩
      omega
    · refine ⟨_, _, if_neg single, fun low _ => ?_⟩
      omega
  | surrogate half => exact ⟨_, [], rfl, fun low _ => ⟨half, rfl, by omega⟩⟩

end Text

namespace Json

open Text (utf16Units unitsOf unitEscape escapedChar escapedPoint IsComposed)

variable (start place : Nat) (seen : List Nat) {rest : List Char}

/-- The code units at the front are those of the character that is read from them. One that stands
alone is no surrogate, so the next one is not taken for its partner. -/
theorem ofUnits_append (character : Char) (units : List Nat) :
    ofUnits (utf16Units character ++ units) = .char character :: ofUnits units := by
  have bounds := CodePoint.toNat_bounds character
  have same : CodePoint.ofNat character.toNat = .char character := CodePoint.ofNat_toNat (.char _)
  unfold utf16Units
  split
  · cases units with
    | nil => simp only [List.append_nil, ofUnits, same]
    | cons low later => rw [List.singleton_append, ofUnits, if_neg (by omega), same]
  · rw [List.cons_append, List.singleton_append, ofUnits, if_pos (by omega)]
    have whole : 0x10000 + (0xD800 + (character.toNat - 0x10000) / 0x400 - 0xD800) * 0x400 +
        (0xDC00 + (character.toNat - 0x10000) % 0x400 - 0xDC00) = character.toNat := by omega
    rw [whole, same]

/-- A surrogate at the front that has no partner behind it is read by itself. -/
theorem ofUnits_surrogate {half : Surrogate} {units : List Nat}
    (alone : ∀ unit ∈ units.head?, ¬ (half.val < 0x400 ∧ 0xDC00 ≤ unit ∧ unit < 0xE000)) :
    ofUnits ((0xD800 + half.val) :: units) = .surrogate half :: ofUnits units := by
  have same : CodePoint.ofNat (0xD800 + half.val) = .surrogate half :=
    CodePoint.ofNat_toNat (.surrogate _)
  cases units with
  | nil => simp only [ofUnits, same]
  | cons unit others =>
    have apart := alone unit rfl
    rw [ofUnits, if_neg (by omega), same]

/-- From their code units code points are read in composed form. The cases are those of the
composition: a pair of surrogates is read as the character, and everything else as what it was. -/
theorem ofUnits_flatMap (points : List CodePoint) :
    ofUnits (points.flatMap unitsOf) = CodePoint.compose points := by
  fun_induction CodePoint.compose points with
  | case1 high low rest pair ih =>
    have units : (CodePoint.surrogate high :: .surrogate low :: rest).flatMap unitsOf =
        (0xD800 + high.val) :: (0xD800 + low.val) :: rest.flatMap unitsOf := rfl
    have number : 0x10000 + (0xD800 + high.val - 0xD800) * 0x400 + (0xD800 + low.val - 0xDC00) =
        0x10000 + high.val * 0x400 + (low.val - 0x400) := by omega
    rw [units, ofUnits, if_pos (by omega), ih, number, CodePoint.ofPair]
  | case2 high low rest apart ih =>
    have units : (CodePoint.surrogate high :: .surrogate low :: rest).flatMap unitsOf =
        (0xD800 + high.val) :: (CodePoint.surrogate low :: rest).flatMap unitsOf := rfl
    rw [units, ofUnits_surrogate, ih]
    rintro unit ⟨⟩
    omega
  | case3 point rest single ih =>
    rw [List.flatMap_cons]
    cases point with
    | char character => rw [unitsOf, ofUnits_append, ih]
    | surrogate half =>
      rw [unitsOf, List.singleton_append, ofUnits_surrogate, ih]
      intro unit first low
      cases rest with
      | nil => cases first
      | cons next more =>
        obtain ⟨other, units, begins, isLow⟩ := Text.unitsOf_eq_cons next
        rw [List.flatMap_cons, begins] at first
        cases first
        obtain ⟨partner, isPartner, _⟩ := isLow low.2.1 low.2.2
        exact single half partner more rfl (isPartner ▸ rfl)
  | case4 => rfl

/-- Escapes of code units are read as these units, if there is more text behind them. The reader
asks for that, since a literal ends with a quote. -/
theorem lex_unitEscapes {units : List Nat} (small : ∀ unit ∈ units, unit < 0x10000)
    (more : rest ≠ []) : ∃ behind, lex (.string start seen) place
        (units.flatMap unitEscape ++ rest) =
      lex (.string start (units.reverse ++ seen)) behind rest := by
  induction units generalizing seen place with
  | nil => exact ⟨place, rfl⟩
  | cons unit others ih =>
    rw [List.forall_mem_cons] at small
    obtain ⟨behind, read⟩ := ih (place + 6) (unit :: seen) small.2
    refine ⟨behind, ?_⟩
    obtain ⟨a, b, c, d, digits⟩ : ∃ a b c d, Text.hexadecimal 4 unit = [a, b, c, d] :=
      ⟨_, _, _, _, rfl⟩
    have isUnit : hexUnit? (Text.hexadecimal 4 unit ++ (others.flatMap unitEscape ++ rest)) =
        some (unit, others.flatMap unitEscape ++ rest) := by
      refine hexUnit?_eq_some_iff.2 ⟨a, b, c, d, by rw [digits], by simp [more], ?_⟩
      rw [← digits]
      exact Text.hexNumber?_hexadecimal small.1
    rw [List.flatMap_cons, List.append_assoc, unitEscape, List.cons_append, List.cons_append,
      lex_string_unit, isUnit]
    simpa using read

/-- A character inside a literal is read as its code units, in whichever way it was written. -/
theorem lex_escapedChar (character : Char) (more : rest ≠ []) : ∃ behind,
    lex (.string start seen) place (escapedChar character ++ rest) =
      lex (.string start ((utf16Units character).reverse ++ seen)) behind rest := by
  have letters : ∀ entry ∈ Text.shortEscapes, entry.2 ≠ 'u' ∧
      simpleEscape? entry.2 = some entry.1 ∧ utf16Units entry.1 = [entry.1.toNat] := by decide
  have way : Text.Escape character (escapedChar character) := Text.escape_escapedChar
  generalize escapedChar character = written at way
  cases way with
  | short letter listed =>
    obtain ⟨noUnit, meaning, single⟩ := letters _ listed
    refine ⟨place + 2, ?_⟩
    rw [List.cons_append, List.singleton_append, lex_string_escape noUnit, meaning, single]
    rfl
  | itself quote backslash printable =>
    have single : utf16Units character = [character.toNat] := if_pos (by omega)
    refine ⟨place + 1, ?_⟩
    rw [List.singleton_append, lex_string_char quote backslash, if_neg (by omega), single]
    rfl
  | units => exact lex_unitEscapes start place seen (fun _ => Text.lt_of_mem_utf16Units) more

/-- A code point inside a literal is read as its code units. A character beyond 0xFFFF has two of
them, as a pair of surrogates has. -/
theorem lex_escapedPoint (point : CodePoint) (more : rest ≠ []) : ∃ behind,
    lex (.string start seen) place (escapedPoint point ++ rest) =
      lex (.string start ((unitsOf point).reverse ++ seen)) behind rest := by
  cases point with
  | char character => exact lex_escapedChar start place seen character more
  | surrogate half =>
    have small : ∀ unit ∈ unitsOf (.surrogate half), unit < 0x10000 := by
      simp only [unitsOf, List.mem_singleton, forall_eq]
      omega
    simpa [unitsOf, escapedPoint] using lex_unitEscapes start place seen small more

/-- The inside of a literal is read as the code units of its text, up to the quote that closes
it. -/
theorem lex_escapedPoints (points : List CodePoint) (rest : List Char) : ∃ behind,
    lex (.string start seen) place (points.flatMap escapedPoint ++ '"' :: rest) =
      (start, .text (Text.ofList (ofUnits (seen.reverse ++ points.flatMap unitsOf)))) ::
        lex .gap behind rest := by
  induction points generalizing seen place with
  | nil => exact ⟨place + 1, by simp [lex]⟩
  | cons point later ih =>
    have more : later.flatMap escapedPoint ++ '"' :: rest ≠ [] := by simp
    obtain ⟨between, first⟩ := lex_escapedPoint start place seen point more
    obtain ⟨behind, others⟩ := ih between ((unitsOf point).reverse ++ seen)
    refine ⟨behind, ?_⟩
    rw [List.flatMap_cons, List.append_assoc, first, others]
    simp

/-- A literal is one token, which is its text in composed form, whatever follows it. -/
theorem lex_literal (text : Text) (rest : List Char) : ∃ behind,
    lex .gap place ((Text.literal text).toList ++ rest) =
      (place, .text text.composed) :: lex .gap behind rest := by
  obtain ⟨behind, read⟩ := lex_escapedPoints place (place + 1) [] text.toList rest
  refine ⟨behind, ?_⟩
  have opened : (Text.literal text).toList ++ rest =
      '"' :: (text.toList.flatMap escapedPoint ++ '"' :: rest) := by simp [Text.literal]
  rw [opened, lex_outside_quote rfl, read]
  simp [LexState.finished, ofUnits_flatMap, Text.composed]

/-- Tokens are cut alike wherever their text stands, but for their places. -/
theorem map_unplaced_lex (state : LexState) (place otherPlace : Nat) (text : List Char) :
    (lex state place text).map unplaced = (lex state otherPlace text).map unplaced := by
  have alike : state.Alike state := by cases state <;> constructor
  exact (keepsTokens text alike place 0).trans (keepsTokens text alike otherPlace 0).symm

/-- What a reader makes of a text from a given state on, wherever the text stands. -/
def outcome (expected : Expectation) (frames : List Frame) (text : List Char) :
    Except (Unreadable SyntaxProblem) Json :=
  withoutPlace (run 0 expected frames (tokens text))

variable {expected next : Expectation} {frames nextFrames : List Frame} {depth : Nat}

/-- How a reading comes out is no matter of where its text stands, nor of where the whole text
stops. -/
theorem withoutPlace_run_lex (stop place : Nat) (text : List Char) :
    withoutPlace (run stop expected frames (lex .gap place text)) = outcome expected frames text :=
  withoutPlace_run (map_unplaced_lex .gap place 0 text)

/-- A token takes the reader one step further, to what follows it. The step depends on the state of
the reader and on nothing behind the token. -/
theorem outcome_token {text : List Char} {token : Token} {place : Nat}
    (cut : tokens text = (0, token) :: lex .gap place rest)
    (taken : step expected frames (0, token) = .ok (next, nextFrames)) :
    outcome expected frames text = outcome next nextFrames rest := by
  rw [outcome, cut, run, taken]
  exact withoutPlace_run_lex 0 place rest

/-- A blank between tokens is passed over. The reader stays in the state in which it is. -/
theorem outcome_blank : outcome expected frames (' ' :: rest) = outcome expected frames rest := by
  rw [outcome, tokens, lex_outside_gap rfl rfl]
  exact withoutPlace_run_lex 0 1 rest

/-- A mark of one character takes the reader one step further. No word has to be finished before
it. -/
theorem outcome_mark {character : Char} {token : Token} (mark : punctuation? character = some token)
    (solid : isGap character = false) (plain : character ≠ '"')
    (taken : step expected frames (0, token) = .ok (next, nextFrames)) :
    outcome expected frames (character :: rest) = outcome next nextFrames rest := by
  have cut : tokens (character :: rest) = (0, token) :: lex .gap 1 rest := by
    rw [tokens, lex_outside_solid rfl solid plain, mark]
    rfl
  exact outcome_token cut taken

/-- A literal takes the reader one step further, by its text in composed form. -/
theorem outcome_literal {text : Text}
    (taken : step expected frames (0, .text text.composed) = .ok (next, nextFrames)) :
    outcome expected frames ((Text.literal text).toList ++ rest) =
      outcome next nextFrames rest := by
  obtain ⟨behind, cut⟩ := lex_literal 0 text rest
  exact outcome_token cut taken

/-- The text of a value takes a reader that expects one to that value in composed form, whatever
follows, if there is room for some more arrays and objects that are open at once. -/
def Reads (depth : Nat) (value : Json) : Prop :=
  ∀ frames rest, frames.length + depth ≤ nestingLimit →
    outcome .value frames (value.literal.toList ++ rest) =
      outcome (.next value.composed) frames rest

/-- What can be read with some depth left can be read with more. So an object is read as deep as its
deepest member asks for. -/
theorem Reads.mono {value : Json} {more : Nat} (reads : Reads depth value) (less : depth ≤ more) :
    Reads more value := fun frames rest room => reads frames rest (by omega)

/-- A text is read as a value, in its composed form. It takes no depth. -/
theorem reads_string (text : Text) : Reads 0 (.string text) := by
  intro frames rest _
  have taken : step .value frames (0, .text text.composed) =
      .ok (.next (.string text.composed), frames) := rfl
  exact (outcome_literal taken).trans (by rw [composed])

/-- The text of a member of an object: the literal of its name, a colon and a blank, and the text of
its value. -/
def memberText (member : Text × Json) : List Char :=
  (Text.literal member.1).toList ++ ':' :: ' ' :: member.2.literal.toList

/-- Behind the name of a member its value is read, and the member waits for the end of it. -/
theorem outcome_colon {before : List (Text × Json)} {name : Text} {value : Json}
    (reads : Reads depth value) (room : frames.length + depth < nestingLimit) :
    outcome (.colon before name) frames (':' :: ' ' :: (value.literal.toList ++ rest)) =
      outcome (.next value.composed) (.member before name :: frames) rest := by
  have colon : step (.colon before name) frames (0, .colon) =
      .ok (.value, .member before name :: frames) := rfl
  rw [outcome_mark rfl rfl (by decide) colon, outcome_blank]
  exact reads _ _ (by rw [List.length_cons]; omega)

/-- Behind a member the other ones are read, and the brace that closes the object. The induction is
on the members still to come, with those already read at hand. -/
theorem outcome_members {before more : List (Text × Json)} {member : Text × Json}
    (reads : ∀ each ∈ more, Reads depth each.2) (room : frames.length + depth < nestingLimit) :
    outcome (.next member.2) (.member before member.1 :: frames)
        (more.flatMap (fun each => ',' :: ' ' :: memberText each) ++ '\x7d' :: rest) =
      outcome (.next (closeObject ((more.map composedMember).reverse ++ member :: before))) frames
        rest := by
  induction more generalizing before member with
  | nil => exact outcome_mark rfl rfl (by decide) rfl
  | cons other others ih =>
    rw [List.forall_mem_cons] at reads
    have comma : step (.next member.2) (.member before member.1 :: frames) (0, .comma) =
        .ok (.member (member :: before), frames) := rfl
    have name : step (.member (member :: before)) frames (0, .text other.1.composed) =
        .ok (.colon (member :: before) other.1.composed, frames) := rfl
    have text : (other :: others).flatMap (fun each => ',' :: ' ' :: memberText each) ++
          '\x7d' :: rest =
        ',' :: ' ' :: ((Text.literal other.1).toList ++ ':' :: ' ' :: (other.2.literal.toList ++
          (others.flatMap (fun each => ',' :: ' ' :: memberText each) ++ '\x7d' :: rest))) := by
      simp [memberText]
    have behind : outcome (.next (composedMember other).2)
          (.member (member :: before) (composedMember other).1 :: frames)
          (others.flatMap (fun each => ',' :: ' ' :: memberText each) ++ '\x7d' :: rest) = _ :=
      ih reads.2
    rw [text, outcome_mark rfl rfl (by decide) comma, outcome_blank, outcome_literal name,
      outcome_colon reads.1 room]
    exact behind.trans (by simp)

/-- The text of an object is that of its members, with marks between and around them. -/
theorem literal_object (members : List (Text × Json)) :
    (object members).literal.toList =
      '\x7b' :: ([',', ' '].intercalate (members.map memberText) ++ ['\x7d']) := by
  have texts (members : List (Text × Json)) :
      (writeMembers literalSpelling members).map String.toList = members.map memberText := by
    induction members with
    | nil => rfl
    | cons member others ih =>
      rw [writeMembers, List.map_cons, List.map_cons, ih]
      simp [memberText, literal, literalSpelling]
  rw [literal, write, String.toList_append, String.toList_append, String.toList_intercalate, texts]
  rfl

/-- An object is read when the values of its members are, with one more place for itself. Names that
come to be one name in composed form are put together as a reader puts them. -/
theorem reads_object {members : List (Text × Json)}
    (reads : ∀ member ∈ members, Reads depth member.2) : Reads (depth + 1) (.object members) := by
  intro frames rest room
  have opened : step .value frames (0, .openBrace) = .ok (.memberOrClose, frames) :=
    if_pos (by omega)
  rw [literal_object, List.cons_append, List.append_assoc,
    outcome_mark rfl rfl (by decide) opened]
  cases members with
  | nil => exact outcome_mark rfl rfl (by decide) rfl
  | cons member more =>
    rw [List.forall_mem_cons] at reads
    have name : step .memberOrClose frames (0, .text member.1.composed) =
        .ok (.colon [] member.1.composed, frames) := rfl
    have closed : closeObject ((more.map composedMember).reverse ++ [composedMember member]) =
        (object (member :: more)).composed := by
      rw [closeObject, composed, composedMembers_eq_map, List.reverse_append, List.reverse_reverse]
      rfl
    have others : outcome (.next (composedMember member).2)
          (.member [] (composedMember member).1 :: frames)
          (more.flatMap (fun each => ',' :: ' ' :: memberText each) ++ '\x7d' :: rest) =
        outcome (.next (closeObject ((more.map composedMember).reverse ++ [composedMember member])))
          frames rest :=
      outcome_members reads.2 (by omega)
    rw [List.map_cons, intercalate_cons, List.flatMap_map, memberText, List.append_assoc,
      List.append_assoc, outcome_literal name, List.cons_append, List.cons_append,
      outcome_colon reads.1 (by omega), ← closed]
    simpa only [List.cons_append, List.nil_append, composedMember] using others

/-- An object whose values can be read is in composed form what its own text denotes, as long as no
more objects are open at once than a reader can hold. -/
theorem parse_literal_object {members : List (Text × Json)}
    (reads : ∀ member ∈ members, Reads depth member.2) (room : depth < nestingLimit) :
    parse (object members).literal = .ok (object members).composed := by
  have noMark : (object members).literal.toList.head? ≠ some '\uFEFF' := by
    rw [literal_object]
    exact fun mark => absurd (Option.some.inj mark) (by decide)
  have read : outcome .value [] ((object members).literal.toList ++ []) =
      outcome (.next (object members).composed) [] [] :=
    reads_object reads [] [] (by rw [List.length_nil]; omega)
  have told : (parse (object members).literal).mapError (Unreadable.map SyntaxError.problem) =
      .ok (object members).composed := by
    rw [mapError_parse, if_neg noMark, tokens, withoutPlace_run_lex, ← List.append_nil
      (object members).literal.toList, read]
    rfl
  cases parsed : parse (object members).literal with
  | ok value =>
    rw [parsed] at told
    exact congrArg Except.ok (Except.ok.inj told)
  | error failure =>
    rw [parsed] at told
    cases told

end Json

namespace Text

variable {text other : Text} {rest otherRest : List Char}

/-- A text has the literal of its composed form: a pair of surrogates has the code units of the
character that stands for it there. -/
theorem literal_composed (text : Text) : literal text.composed = literal text := by
  have points (points : List CodePoint) :
      (CodePoint.compose points).flatMap escapedPoint = points.flatMap escapedPoint := by
    fun_induction CodePoint.compose points with
    | case1 high low rest pair ih =>
      obtain ⟨whole, composed, number⟩ := CodePoint.exists_ofPair pair.1 pair.2
      have first : 0xD800 + (whole.toNat - 0x10000) / 0x400 = 0xD800 + high.val := by omega
      have second : 0xDC00 + (whole.toNat - 0x10000) % 0x400 = 0xD800 + low.val := by omega
      have units : utf16Units whole = [0xD800 + high.val, 0xD800 + low.val] := by
        rw [utf16Units, if_neg (by omega), first, second]
      rw [List.flatMap_cons, List.flatMap_cons, List.flatMap_cons, ih, composed, escapedPoint,
        escapedChar_of_large (by omega), units]
      simp [escapedPoint]
    | case2 high low rest apart ih => rw [List.flatMap_cons, List.flatMap_cons, ih]
    | case3 point rest single ih => rw [List.flatMap_cons, List.flatMap_cons, ih]
    | case4 => rfl
  rw [literal, literal, toList_composed, points]

/-- A literal at the front of a text is determined up to composition, together with what follows it,
since it is the first token there. -/
theorem literal_append_inj
    (same : (literal text).toList ++ rest = (literal other).toList ++ otherRest) :
    text.composed = other.composed ∧ rest = otherRest := by
  obtain ⟨_, first⟩ := Json.lex_literal 0 text rest
  obtain ⟨_, otherFirst⟩ := Json.lex_literal 0 other otherRest
  rw [same, otherFirst] at first
  have composed : text.composed = other.composed :=
    (Json.Token.text.inj (Prod.mk.inj (List.cons.inj first).1).2).symm
  refine ⟨composed, ?_⟩
  rw [← literal_composed text, composed, literal_composed] at same
  exact List.append_cancel_left same

/-- Two texts have one literal exactly when they have one composed form. So a literal denotes its
text, but for pairs of surrogates. -/
theorem literal_inj : literal text = literal other ↔ text.composed = other.composed := by
  constructor
  · intro same
    have letters : (literal text).toList ++ [] = (literal other).toList ++ [] := by rw [same]
    exact (literal_append_inj letters).1
  · intro same
    rw [← literal_composed text, same, literal_composed]

end Text

end OpenApiTypes
