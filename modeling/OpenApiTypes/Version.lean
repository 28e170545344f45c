import OpenApiTypes.Text
import OpenApiTypes.Text.Digit

/-!
# Release versions

Releases are tagged with a letter in front of three numbers. A version that begins with a digit gets
the letter, and one of two numbers gets a third, which is zero. A line feed may stand at the end of
the two numbers; everything else is left as it is. A digit is a decimal digit of any script.
-/
namespace OpenApiTypes.Version

/-- A decimal digit of any script. No surrogate is one. -/
def isDigit : CodePoint → Bool
  | .char c => Text.isDigit c
  | .surrogate _ => false

/-- Whether a text is two numbers with a point between them, perhaps with a line feed behind. That
line feed is there because the end of a text is taken for the end of its last line. -/
def isTwoNumbers (text : List CodePoint) : Bool :=
  let afterFirst := text.dropWhile isDigit
  match afterFirst with
  | .char '.' :: second =>
    let left := second.dropWhile isDigit
    !(text.takeWhile isDigit).isEmpty && !(second.takeWhile isDigit).isEmpty &&
      (left == [] || left == [.char '\n'])
  | _ => false

/-- The version with the letter in front, if it begins with a digit. One that begins otherwise stays
as it is. -/
def withLetter : List CodePoint → List CodePoint
  | c :: rest => if isDigit c then .char 'v' :: c :: rest else c :: rest
  | [] => []

/-- The version with a third number, if it has the letter and two. The number is put behind all
else, the line feed too. -/
def withThirdNumber : List CodePoint → List CodePoint
  | .char 'v' :: rest =>
    if isTwoNumbers rest then .char 'v' :: rest ++ [.char '.', .char '0'] else .char 'v' :: rest
  | text => text

/-- The tag of a release: its version with the letter that tags begin with and with all three
numbers, as far as it is of the form to be completed. -/
def tag (version : Text) : Text :=
  Text.ofList (withThirdNumber (withLetter version.toList))

/-- The tag of a release whose version is a string. It is a string, too. -/
def tagString (version : String) : String := (tag version).head

/-- The version of this program, which is that of the release it is made for. -/
def ofProgram : String := "1.30.0"

end OpenApiTypes.Version
