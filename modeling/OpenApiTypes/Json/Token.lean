import OpenApiTypes.Json
import OpenApiTypes.Text.Hexadecimal

/-!
# Tokens of JSON text

A text is cut into brackets, braces, colons, commas, strings and words, where a word is a run of
characters that are none of these and no blanks. The longest literal or number at the start of a
word is a token; whatever remains of the word is not. Cutting ends at the first thing that is no
token, and that thing is the last of the list, so a reader that meets it knows what was wrong and
where.

Outside strings a carriage return and a line feed are blanks alike, and inside a string neither may
stand, so it does not matter to the tokens how a text ends its lines.
-/
namespace OpenApiTypes.Json

/-- What can be wrong with a text that should be JSON. Each of them is about one place of the
text. -/
inductive SyntaxProblem where
  | byteOrderMark
  | valueExpected
  | nameExpected
  | colonExpected
  | commaExpected
  | trailingText
  | unterminatedString
  | controlCharacter
  | unknownEscape
  | unicodeEscape
  deriving DecidableEq, Repr

/-- A lexical unit. `invalid` stands where the text has none, and names the place of the fault,
which inside a string lies behind the place where the string begins. -/
inductive Token where
  | openBracket
  | closeBracket
  | openBrace
  | closeBrace
  | colon
  | comma
  | text (value : Text)
  | datum (value : Json)
  | invalid (problem : SyntaxProblem) (place : Nat)

/-- A token with the count of characters before it, by which an error can name its place. -/
abbrev PlacedToken := Nat × Token

/-- The characters that may stand between tokens. Other white space may not. -/
def isGap (c : Char) : Bool := c == ' ' || c == '\t' || c == '\n' || c == '\r'

/-- The token that a single character makes. -/
def punctuation? : Char → Option Token
  | '[' => some .openBracket
  | ']' => some .closeBracket
  | '\x7b' => some .openBrace
  | '\x7d' => some .closeBrace
  | ':' => some .colon
  | ',' => some .comma
  | _ => none

/-- The words that denote a value. Three of them are no JSON and are read all the same. -/
def literalWords : List (List Char × Json) :=
  [("null".toList, .null), ("true".toList, .boolean true), ("false".toList, .boolean false),
    ("NaN".toList, .real .notANumber), ("Infinity".toList, .real (.infinite false)),
    ("-Infinity".toList, .real (.infinite true))]

/-- A digit of a numeral. Digits of other scripts are none here. -/
def isNumeralDigit (c : Char) : Bool := '0' ≤ c && c ≤ '9'

/-- The value of a run of digits, zeros at the front included. -/
def numeralValue (digits : List Char) : Nat :=
  digits.foldl (fun value c => 10 * value + (c.toNat - 0x30)) 0

/-- A minus sign at the front, and what follows it. A plus sign is none. -/
def readSign : List Char → Bool × List Char
  | '-' :: rest => (true, rest)
  | text => (false, text)

/-- The whole part of a number: a zero alone, or digits that do not begin with one. -/
def readWhole? : List Char → Option (List Char × List Char)
  | '0' :: rest => some (['0'], rest)
  | text =>
    match text.takeWhile isNumeralDigit with
    | [] => none
    | digits => some (digits, text.dropWhile isNumeralDigit)

/-- The digits of a fraction, or nothing where no point with a digit after it stands. A point alone
is left over. -/
def readFraction : List Char → List Char × List Char
  | '.' :: rest =>
    match rest.takeWhile isNumeralDigit with
    | [] => ([], '.' :: rest)
    | digits => (digits, rest.dropWhile isNumeralDigit)
  | text => ([], text)

/-- The power of ten behind the letter of an exponent, if there is a digit. Either sign may stand
before it. -/
def readPower? (text : List Char) : Option (Int × List Char) :=
  let (negative, rest) :=
    match text with
    | '-' :: rest => (true, rest)
    | '+' :: rest => (false, rest)
    | rest => (false, rest)
  match rest.takeWhile isNumeralDigit with
  | [] => none
  | digits =>
    let power : Int := numeralValue digits
    some (if negative then -power else power, rest.dropWhile isNumeralDigit)

/-- The exponent of a number, or nothing where no complete one stands. What is incomplete is left
over as a whole, the letter too. -/
def readExponent : List Char → Option Int × List Char
  | c :: rest =>
    if c == 'e' || c == 'E' then
      match readPower? rest with
      | some (power, left) => (some power, left)
      | none => (none, c :: rest)
    else (none, c :: rest)
  | [] => (none, [])

/-- The longest number at the start of a text. One with a fraction or an exponent is real, even if
its value is whole. -/
def readNumber? (text : List Char) : Option (Json × List Char) :=
  let (negative, unsigned) := readSign text
  match readWhole? unsigned with
  | none => none
  | some (whole, afterWhole) =>
    let (fraction, afterFraction) := readFraction afterWhole
    match fraction, readExponent afterFraction with
    | [], (none, rest) =>
      let magnitude : Int := numeralValue whole
      some (.integer (if negative then -magnitude else magnitude), rest)
    | _, (power, rest) =>
      let exponent := power.getD 0 - fraction.length
      some (.real (.ofDecimal negative (numeralValue (whole ++ fraction)) exponent), rest)

/-- The value at the start of a word, and the characters left over. A word for a value comes before
a number, since one of them begins like a number. -/
def readWord? (word : List Char) : Option (Json × List Char) :=
  match literalWords.find? fun entry => entry.1.isPrefixOf word with
  | some (letters, value) => some (value, word.drop letters.length)
  | none => readNumber? word

/-- The tokens of a word that begins at the given place: its value, and a fault at the first
character that does not belong to it. -/
def wordTokens (start : Nat) (word : List Char) : List PlacedToken :=
  match readWord? word with
  | none => [(start, .invalid .valueExpected start)]
  | some (value, []) => [(start, .datum value)]
  | some (value, rest) =>
    let place := start + (word.length - rest.length)
    [(start, .datum value), (place, .invalid .valueExpected place)]

/-- The character that a one-letter escape denotes. Any other letter denotes none. -/
def simpleEscape? : Char → Option Char
  | '"' => some '"'
  | '\\' => some '\\'
  | '/' => some '/'
  | 'b' => some '\x08'
  | 'f' => some '\x0c'
  | 'n' => some '\n'
  | 'r' => some '\r'
  | 't' => some '\t'
  | _ => none

/-- The code points of a sequence of code units. A high surrogate and a low one directly after it
are one character; a surrogate without its partner stays by itself. -/
def ofUnits : List Nat → List CodePoint
  | [] => []
  | [unit] => [.ofNat unit]
  | high :: low :: rest =>
    if 0xD800 ≤ high ∧ high < 0xDC00 ∧ 0xDC00 ≤ low ∧ low < 0xE000 then
      .ofNat (0x10000 + (high - 0xD800) * 0x400 + (low - 0xDC00)) :: ofUnits rest
    else .ofNat high :: ofUnits (low :: rest)

/-- Where the cutting of a text stands: between tokens, inside a word, or inside a string. A word
and a string know their place and what was read of them, last first; a string is read as code units.
-/
inductive LexState where
  | gap
  | word (start : Nat) (seen : List Char)
  | string (start : Nat) (seen : List Nat)

/-- The tokens of a text, from a given state and place on. -/
def lex : LexState → Nat → List Char → List PlacedToken
  | .gap, _, [] => []
  | .gap, place, c :: rest =>
    if isGap c then lex .gap (place + 1) rest
    else if c == '"' then lex (.string place []) (place + 1) rest
    else
      match punctuation? c with
      | some token => (place, token) :: lex .gap (place + 1) rest
      | none => lex (.word place [c]) (place + 1) rest
  | .word start seen, _, [] => wordTokens start seen.reverse
  | .word start seen, place, c :: rest =>
    if isGap c then wordTokens start seen.reverse ++ lex .gap (place + 1) rest
    else if c == '"' then
      wordTokens start seen.reverse ++ lex (.string place []) (place + 1) rest
    else
      match punctuation? c with
      | some token => wordTokens start seen.reverse ++ (place, token) :: lex .gap (place + 1) rest
      | none => lex (.word start (c :: seen)) (place + 1) rest
  | .string start _, _, [] => [(start, .invalid .unterminatedString start)]
  | .string start seen, place, '"' :: rest =>
    (start, .text (Text.ofList (ofUnits seen.reverse))) :: lex .gap (place + 1) rest
  | .string start _, _, ['\\'] => [(start, .invalid .unterminatedString start)]
  | .string start seen, place, '\\' :: 'u' :: a :: b :: c :: d :: rest =>
    match rest, Text.hexNumber? [a, b, c, d] with
    | _ :: _, some unit => lex (.string start (unit :: seen)) (place + 6) rest
    | _, _ => [(start, .invalid .unicodeEscape (place + 1))]
  | .string start seen, place, '\\' :: c :: rest =>
    if c == 'u' then [(start, .invalid .unicodeEscape (place + 1))]
    else
      match simpleEscape? c with
      | some meant => lex (.string start (meant.toNat :: seen)) (place + 2) rest
      | none => [(start, .invalid .unknownEscape place)]
  | .string start seen, place, c :: rest =>
    if c.toNat < 0x20 then [(start, .invalid .controlCharacter place)]
    else lex (.string start (c.toNat :: seen)) (place + 1) rest

/-- The tokens of a whole text. Each is given with its place, and the first fault is the last
one. -/
def tokens (text : List Char) : List PlacedToken := lex .gap 0 text

end OpenApiTypes.Json
