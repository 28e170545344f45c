import Mathlib.Data.Option.Basic
import OpenApiTypes.Proofs.Signatures

/-!
# What the key of a member denotes

A key denotes a name: an identifier denotes itself, and a string literal denotes its value, which is
a row of UTF-16 code units. Literals are read here as the language reads them, with all its escapes,
so what a key denotes is not settled by how keys are written.

A key is written between quotes with a backslash before every quote and every backslash. That is all
that a literal needs, but for the line feed and the carriage return, which no literal may hold as
they are. A key with one of these denotes nothing. Nor does an identifier with a line feed behind
it, which is written without quotes. All other names are denoted by their keys.
-/
namespace OpenApiTypes

/-- Where the reading of a string literal stands: between two characters of the value, behind a
backslash, behind a carriage return or a zero that came after one, behind the `u` of an escape, with
some hexadecimal digits still missing, between the braces of an escape, or behind the closing quote.
-/
inductive LiteralState where
  | inside
  | escape
  | broken
  | zero
  | unicode
  | digits (missing value : Nat)
  | codePoint (value : Option Nat)
  | closed

namespace LiteralState

/-- The UTF-16 code units of a code point, which may be a lone surrogate. -/
def pointUnits (point : Nat) : List Nat :=
  if point < 0x10000 then [point]
  else [0xD800 + (point - 0x10000) / 0x400, 0xDC00 + (point - 0x10000) % 0x400]

/-- The character that a letter behind a backslash denotes. A character without a meaning of its own
there denotes itself. -/
def escaped : Char → Char
  | 'b' => '\x08'
  | 'f' => '\x0c'
  | 'n' => '\n'
  | 'r' => '\r'
  | 't' => '\t'
  | 'v' => '\x0b'
  | c => c

/-- Read a code point of the value. A line feed and a carriage return may not stand there. -/
def stepInside (point : CodePoint) : Option (LiteralState × List Nat) :=
  if point = .char '"' then some (.closed, [])
  else if point = .char '\\' then some (.escape, [])
  else if point = .char '\n' ∨ point = .char '\r' then none
  else some (.inside, Text.unitsOf point)

/-- Read the code point behind a backslash. The end of a line there is left out of the value. -/
def stepEscape : CodePoint → Option (LiteralState × List Nat)
  | .char c =>
    if c == 'x' then some (.digits 2 0, [])
    else if c == 'u' then some (.unicode, [])
    else if c == '0' then some (.zero, [0])
    else if '1' ≤ c && c ≤ '9' then none
    else if c == '\r' then some (.broken, [])
    else if c == '\n' || c == '\u2028' || c == '\u2029' then some (.inside, [])
    else some (.inside, Text.utf16Units (escaped c))
  | point => some (.inside, Text.unitsOf point)

/-- The value of a hexadecimal digit. -/
def hexPoint? : CodePoint → Option Nat
  | .char c => Text.hexValue? c
  | .surrogate _ => none

/-- Read one of the hexadecimal digits that are missing. The last of them completes the code
unit. -/
def stepDigit (missing value : Nat) (point : CodePoint) : Option (LiteralState × List Nat) :=
  (hexPoint? point).map fun digit =>
    let value := 16 * value + digit
    if missing ≤ 1 then (.inside, [value]) else (.digits (missing - 1) value, [])

/-- Read a hexadecimal digit between braces, or the closing brace. -/
def stepCodePoint (value : Option Nat) (point : CodePoint) : Option (LiteralState × List Nat) :=
  if point = .char '\x7d' then value.map fun point => (.inside, pointUnits point)
  else
    (hexPoint? point).bind fun digit =>
      let point := 16 * value.getD 0 + digit
      if point ≤ 0x10FFFF then some (.codePoint (some point), []) else none

/-- Read one more code point of a literal. -/
def step : LiteralState → CodePoint → Option (LiteralState × List Nat)
  | inside, point => stepInside point
  | escape, point => stepEscape point
  | broken, point => if point = .char '\n' then some (.inside, []) else stepInside point
  | zero, .char c => if '0' ≤ c && c ≤ '9' then none else stepInside c
  | zero, point => stepInside point
  | unicode, point =>
    if point = .char '\x7b' then some (.codePoint none, []) else stepDigit 4 0 point
  | digits missing value, point => stepDigit missing value point
  | codePoint value, point => stepCodePoint value point
  | closed, _ => none

/-- The code units that the rest of a literal adds to its value. The closing quote is its end. -/
def rest? : LiteralState → List CodePoint → Option (List Nat)
  | closed, [] => some []
  | _, [] => none
  | state, c :: rest => (step state c).bind fun (next, units) => (rest? next rest).map (units ++ ·)

end LiteralState

/-- The value of a string literal in double quotes, in UTF-16 code units. There is none unless the
literal ends where the text does. -/
def literalValue? : List CodePoint → Option (List Nat)
  | .char '"' :: rest => LiteralState.inside.rest? rest
  | _ => none

/-- A key denotes a name when it is the name and an identifier, or a literal with the name as its
value. -/
def KeyDenotes (key name : Text) : Prop :=
  key = name ∧ isIdentifier name.toList = true ∨
    literalValue? key.toList = some (name.toList.flatMap Text.unitsOf)

instance (key name : Text) : Decidable (KeyDenotes key name) :=
  inferInstanceAs (Decidable (key = name ∧ isIdentifier name.toList = true ∨
    literalValue? key.toList = some (name.toList.flatMap Text.unitsOf)))

/-- A line feed or a carriage return, neither of which may stand in a literal as it is. -/
def isLineEnd (c : CodePoint) : Bool := c == .char '\n' || c == .char '\r'

variable {name : List CodePoint} {character : CodePoint} {rest : List CodePoint}

namespace LiteralState

/-- A character that can be read adds its code units to the value of what follows. -/
theorem rest?_cons {state next : LiteralState} {units : List Nat}
    (read : step state character = some (next, units)) :
    state.rest? (character :: rest) = (next.rest? rest).map (units ++ ·) := by
  have opened : state.rest? (character :: rest) =
      (step state character).bind fun (next, units) => (next.rest? rest).map (units ++ ·) := by
    cases state <;> rfl
  rw [opened, read]
  rfl

/-- A character of a key between quotes is read as itself, but for the ends of lines. The two
characters with a backslash before them are read as what stands behind it. -/
theorem rest?_keyPoint : inside.rest? (keyPoint character ++ rest) =
    if isLineEnd character then none
    else (inside.rest? rest).map (Text.unitsOf character ++ ·) := by
  unfold keyPoint
  split
  · rename_i special
    have first : step inside (.char '\\') = some (escape, []) := rfl
    have behind : step escape character = some (inside, Text.unitsOf character) := by
      rcases special with rfl | rfl <;> rfl
    have kept : isLineEnd character = false := by
      rcases special with rfl | rfl <;> rfl
    rw [List.cons_append, List.singleton_append, rest?_cons first, rest?_cons behind, kept,
      Option.map_map]
    rfl
  · rename_i plain
    rw [not_or] at plain
    have read : step inside character =
        if isLineEnd character then none else some (inside, Text.unitsOf character) := by
      simp [step, stepInside, isLineEnd, plain.1, plain.2]
    rw [List.singleton_append]
    cases ends : isLineEnd character with
    | true =>
      rw [ends, if_pos rfl] at read
      rw [rest?, read]
      rfl
    | false =>
      rw [ends] at read
      exact rest?_cons read

/-- A name between quotes is read as its code units when no line ends in it, and otherwise not at
all. The induction is on the name. -/
theorem rest?_key : inside.rest? (name.flatMap keyPoint ++ [.char '"']) =
    if name.any isLineEnd then none else some (name.flatMap Text.unitsOf) := by
  induction name with
  | nil => rfl
  | cons first later ih =>
    rw [List.flatMap_cons, List.append_assoc, rest?_keyPoint, ih, List.any_cons]
    cases isLineEnd first with
    | true => rfl
    | false => cases later.any isLineEnd <;> simp

end LiteralState

/-- No line ends in an identifier. A key that stands without quotes can still have a line feed at
its end. -/
theorem any_isLineEnd_of_identifier (identifier : isIdentifier name = true) :
    name.any isLineEnd = false := by
  rw [List.any_eq_false]
  intro character there ends
  rcases Bool.or_eq_true_iff.1 ends with feed | carriage
  · exact notMem_identifier identifier (by decide) (eq_of_beq feed ▸ there)
  · exact notMem_identifier identifier (by decide) (eq_of_beq carriage ▸ there)

/-- What begins as a name is no literal, as it has no quote in front. So keys with and without
quotes are told apart at once. -/
theorem literalValue?_of_bareKey (bare : isBareKey name = true) : literalValue? name = none := by
  obtain ⟨⟨first, later, rfl, start⟩, _⟩ := bareKey_parts bare
  unfold literalValue?
  split
  · rename_i same
    rw [(List.cons.inj same).1] at start
    exact absurd start (by decide)
  · rfl

/-- A bare key in which no line ends is an identifier: the line feed that one may have behind it is
the end of a line. -/
theorem isIdentifier_of_bareKey (bare : isBareKey name = true)
    (unbroken : name.any isLineEnd = false) : isIdentifier name = true := by
  rcases Bool.or_eq_true_iff.1 bare with identifier | broken
  · exact identifier
  · obtain ⟨ends, _⟩ := Bool.and_eq_true_iff.1 broken
    have there : .char '\n' ∈ name := List.mem_of_getLast? (eq_of_beq ends)
    rw [List.any_eq_false] at unbroken
    exact absurd rfl (unbroken (.char '\n') there)

/-- A bare key is its name and no literal. Any other key is no identifier, and as a literal it has
the name as its value unless a line ends in the name. -/
theorem memberKey_reads (name : Text) :
    (memberKey name = name ∧ isBareKey name.toList = true ∧
        literalValue? (memberKey name).toList = none) ∨
      isIdentifier (memberKey name).toList = false ∧
        literalValue? (memberKey name).toList =
          if name.toList.any isLineEnd then none
          else some (name.toList.flatMap Text.unitsOf) := by
  rcases memberKey_cases name with ⟨plain, bare⟩ | quoted
  · left
    refine ⟨Text.toList_inj.1 plain, bare, ?_⟩
    rw [plain]
    exact literalValue?_of_bareKey bare
  · right
    rw [quoted]
    refine ⟨?_, LiteralState.rest?_key⟩
    rw [isIdentifier, show isNameStart (.char '"') = false from by decide, Bool.false_and]

/-- The key of a member in whose name no line ends denotes the name, as an identifier or as a
literal. -/
theorem keyDenotes_of_unbroken {name : Text} (unbroken : name.toList.any isLineEnd = false) :
    KeyDenotes (memberKey name) name := by
  rcases memberKey_reads name with ⟨key, bare, _⟩ | ⟨_, literal⟩
  · left
    exact ⟨key, isIdentifier_of_bareKey bare unbroken⟩
  · right
    rw [literal, unbroken]
    rfl

/-- The key of a member in whose name a line ends is neither an identifier nor a literal. -/
theorem reads_nothing_of_broken {name : Text} (broken : name.toList.any isLineEnd = true) :
    isIdentifier (memberKey name).toList = false ∧
      literalValue? (memberKey name).toList = none := by
  rcases memberKey_reads name with ⟨key, _, noLiteral⟩ | ⟨noIdentifier, literal⟩
  · refine ⟨?_, noLiteral⟩
    rw [key, ← Bool.not_eq_true]
    intro identifier
    rw [any_isLineEnd_of_identifier identifier] at broken
    cases broken
  · refine ⟨noIdentifier, ?_⟩
    rw [literal, if_pos broken]

/-- A key denotes the name of its member unless a line ends in the name. Then the key is neither an
identifier nor a literal, so it denotes nothing.

Proof: a key is read by a reader of literals with all escapes of the language, one character of the
name at a time. A name that is written bare is an identifier, unless there is a line feed behind it,
which is one of the ends of lines. -/
theorem memberKey_denotes_iff (name : Text) :
    (KeyDenotes (memberKey name) name ↔ name.toList.any isLineEnd = false) ∧
      (name.toList.any isLineEnd = true →
        isIdentifier (memberKey name).toList = false ∧
          literalValue? (memberKey name).toList = none) := by
  refine ⟨⟨?_, keyDenotes_of_unbroken⟩, reads_nothing_of_broken⟩
  intro denotes
  by_contra broken
  obtain ⟨noIdentifier, noLiteral⟩ := reads_nothing_of_broken (Bool.not_eq_false _ ▸ broken)
  rcases denotes with ⟨key, identifier⟩ | literal
  · rw [key, identifier] at noIdentifier
    cases noIdentifier
  · rw [noLiteral] at literal
    cases literal

/-- A name that is an identifier but for the line feed behind it is written without quotes, and with
the line feed the key denotes nothing. -/
theorem memberKey_of_lineFeed : memberKey "a\n" = "a\n" ∧ ¬ KeyDenotes (memberKey "a\n") "a\n" := by
  decide +kernel

end OpenApiTypes
