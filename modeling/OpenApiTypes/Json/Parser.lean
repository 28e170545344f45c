import OpenApiTypes.Json.Token

/-!
# Reading JSON text

A text is read from its tokens by a machine that remembers what it expects next and which arrays and
objects are still open. Every step takes one token, so reading ends with the text. An object keeps
the first place and the last value of each name. A failure names what was expected and the place of
the token that stood there instead, counted in lines, columns and characters. A text may also exceed
a limit of the machine, however well formed it is: on the size of a whole number, and on the count
of arrays and objects that are open at once. The first fault in reading order counts.
-/
namespace OpenApiTypes.Json

/-- What was wrong, in words. The place is told behind them. -/
def SyntaxProblem.message : SyntaxProblem → String
  | byteOrderMark => "Unexpected UTF-8 BOM (decode using utf-8-sig)"
  | valueExpected => "Expecting value"
  | nameExpected => "Expecting property name enclosed in double quotes"
  | colonExpected => "Expecting ':' delimiter"
  | commaExpected => "Expecting ',' delimiter"
  | trailingText => "Extra data"
  | unterminatedString => "Unterminated string starting at"
  | controlCharacter => "Invalid control character at"
  | unknownEscape => "Invalid \\escape"
  | unicodeEscape => "Invalid \\uXXXX escape"

/-- A problem and its place: the count of characters before it, and its line and column from one. -/
structure SyntaxError where
  problem : SyntaxProblem
  line : Nat
  column : Nat
  offset : Nat
  deriving DecidableEq, Repr

/-- The sentence that reports a failed reading, with the place in both forms. -/
def SyntaxError.message (error : SyntaxError) : String :=
  error.problem.message ++ ": line " ++ Nat.repr error.line ++ " column " ++
    Nat.repr error.column ++ " (char " ++ Nat.repr error.offset ++ ")"

/-- The error of a problem at a place of a text. Lines are counted by line feeds; no other break
begins a line here. -/
def SyntaxError.at (text : List Char) (problem : SyntaxProblem) (offset : Nat) : SyntaxError :=
  let before := text.take offset
  ⟨problem, before.count '\n' + 1, (before.reverse.takeWhile (· != '\n')).length + 1, offset⟩

/-- What a text can have too much of: digits in a whole number, or arrays and objects inside of each
other. Neither makes the text malformed. -/
inductive Limit where
  | wholeNumber
  | nesting
  deriving DecidableEq, Repr

/-- Why a text cannot be read: something is wrong with it, which `ε` describes, or it exceeds a
limit. -/
inductive Unreadable (ε : Type) where
  | malformed (error : ε)
  | beyond (limit : Limit)
  deriving DecidableEq, Repr

/-- Change the description of what is wrong. -/
def Unreadable.map {ε ζ : Type} (f : ε → ζ) : Unreadable ε → Unreadable ζ
  | malformed error => .malformed (f error)
  | beyond limit => .beyond limit

/-- Whole numbers of this magnitude, which have 4301 digits, and above are not read. -/
def wholeNumberLimit : Nat := Nat.pow 10 4300

/-- The count of arrays and objects that may be open at once, which stands for the depth at which
the calls of a recursive reader run out. -/
def nestingLimit : Nat := 990

/-- An array or object that is still open: the items before the one being read, last first, or the
members before the one being read, last first, and the name of that one. -/
inductive Frame where
  | item (before : List Json)
  | member (before : List (Text × Json)) (name : Text)

/-- What comes next: a value, the first item or the end of an array, the first member or the end of
an object, a member after a comma, the colon behind a name, or whatever may follow a finished value.
-/
inductive Expectation where
  | value
  | itemOrClose
  | memberOrClose
  | member (before : List (Text × Json))
  | colon (before : List (Text × Json)) (name : Text)
  | next (finished : Json)

/-- The object with the given members, last first. Of several under one name the last value is kept,
at the place of the first. -/
def closeObject (members : List (Text × Json)) : Json :=
  .object (Table.ofList members.reverse).entries

/-- The problem when something else stands where something was expected. It is told by the
expectation alone, and behind a finished value by whether anything is open. -/
def Expectation.problem : Expectation → List Frame → SyntaxProblem
  | .value, _ | .itemOrClose, _ => .valueExpected
  | .memberOrClose, _ | .member _, _ => .nameExpected
  | .colon _ _, _ => .colonExpected
  | .next _, [] => .trailingText
  | .next _, _ => .commaExpected

/-- What is expected next, and the arrays and objects that are open. -/
abbrev ReadState := Expectation × List Frame

/-- The state inside one more array or object, unless too many are open. -/
def openInside (frames : List Frame) (inside : ReadState) :
    Except (Unreadable (SyntaxProblem × Nat)) ReadState :=
  if frames.length < nestingLimit then .ok inside else .error (.beyond .nesting)

/-- The state behind a single datum. A whole number is checked for its size, and no other datum is
refused. -/
def finishDatum (frames : List Frame) : Json → Except (Unreadable (SyntaxProblem × Nat)) ReadState
  | .integer value =>
    if value.natAbs < wholeNumberLimit then .ok (.next (.integer value), frames)
    else .error (.beyond .wholeNumber)
  | value => .ok (.next value, frames)

/-- The state after a token where a value may begin. A bracket or brace opens, a text or a datum is
a value by itself, and nothing else may stand there. -/
def beginValue (frames : List Frame) :
    PlacedToken → Except (Unreadable (SyntaxProblem × Nat)) ReadState
  | (_, .openBracket) => openInside frames (.itemOrClose, .item [] :: frames)
  | (_, .openBrace) => openInside frames (.memberOrClose, frames)
  | (_, .text value) => .ok (.next (.string value), frames)
  | (_, .datum value) => finishDatum frames value
  | (_, .invalid problem place) => .error (.malformed (problem, place))
  | (place, _) => .error (.malformed (.valueExpected, place))

/-- The state after a token where a name has to stand. A string that breaks off inside is reported
for what is wrong in it. -/
def readName (before : List (Text × Json)) (frames : List Frame) :
    PlacedToken → Except (Unreadable (SyntaxProblem × Nat)) ReadState
  | (_, .text name) => .ok (.colon before name, frames)
  | (start, .invalid problem place) =>
    .error (.malformed
      (if problem = .valueExpected then (.nameExpected, start) else (problem, place)))
  | (place, _) => .error (.malformed (.nameExpected, place))

/-- The state after one token. Every pair of an expectation and a token has an answer: the next
state or a problem with its place. -/
def step : Expectation → List Frame → PlacedToken →
    Except (Unreadable (SyntaxProblem × Nat)) ReadState
  | .value, frames, token => beginValue frames token
  | .itemOrClose, .item _ :: frames, (_, .closeBracket) => .ok (.next (.array []), frames)
  | .itemOrClose, frames, token => beginValue frames token
  | .memberOrClose, frames, (_, .closeBrace) => .ok (.next (.object []), frames)
  | .memberOrClose, frames, token => readName [] frames token
  | .member before, frames, token => readName before frames token
  | .colon before name, frames, (_, .colon) => .ok (.value, .member before name :: frames)
  | .next finished, .item before :: frames, (_, .comma) =>
    .ok (.value, .item (finished :: before) :: frames)
  | .next finished, .item before :: frames, (_, .closeBracket) =>
    .ok (.next (.array (finished :: before).reverse), frames)
  | .next finished, .member before name :: frames, (_, .comma) =>
    .ok (.member ((name, finished) :: before), frames)
  | .next finished, .member before name :: frames, (_, .closeBrace) =>
    .ok (.next (closeObject ((name, finished) :: before)), frames)
  | expected, frames, (place, _) => .error (.malformed (expected.problem frames, place))

/-- The value that a list of tokens makes from a given state on, where the text ends at `stop`. Each
step takes one token, so the recursion is on the tokens that are left. -/
def run (stop : Nat) :
    Expectation → List Frame → List PlacedToken → Except (Unreadable (SyntaxProblem × Nat)) Json
  | .next finished, [], [] => .ok finished
  | expected, frames, [] => .error (.malformed (expected.problem frames, stop))
  | expected, frames, token :: rest =>
    match step expected frames token with
    | .ok (expected, frames) => run stop expected frames rest
    | .error failure => .error failure

/-- The value that a text denotes. A byte order mark is refused before anything is read. The tokens
come first and the values are built from them, with every error at its place in the text. -/
def parse (text : String) : Except (Unreadable SyntaxError) Json :=
  let chars := text.toList
  let outcome :=
    if chars.head? = some '\uFEFF' then .error (.malformed (.byteOrderMark, 0))
    else run chars.length .value [] (tokens chars)
  outcome.mapError (Unreadable.map fun failure => .at chars failure.1 failure.2)

end OpenApiTypes.Json
