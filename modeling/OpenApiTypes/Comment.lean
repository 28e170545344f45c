import OpenApiTypes.Text.Blank

/-!
# Comments

A comment block has a line of its own for its start, one for every line of its paragraphs, and one
for its end. The mark that would end the block is broken up inside a paragraph, so it ends where it
should. A paragraph without lines still has one, which is empty.
-/
namespace OpenApiTypes.Comment

/-- A text in which no mark ends a comment: its slash has a backslash before it. Stars and slashes
apart from such a mark stay as they are. -/
def disarm : List CodePoint → List CodePoint
  | .char '*' :: .char '/' :: rest => .char '*' :: .char '\\' :: .char '/' :: disarm rest
  | point :: rest => point :: disarm rest
  | [] => []

/-- The lines of a paragraph, of which there is at least one. A break at the very end begins no
further line. -/
def paragraphLines (paragraph : List CodePoint) : List (List CodePoint) :=
  match Text.lines (disarm paragraph) with
  | [] => [[]]
  | lines => lines

/-- A line of a comment without the blanks at its end. The empty line of a paragraph is a star
alone. -/
def commentLine (indent : Nat) (line : List CodePoint) : List CodePoint :=
  Text.trimEnd (List.replicate indent (.char ' ') ++ .char ' ' :: .char '*' :: .char ' ' :: line)

/-- The lines of a comment block, indented: the opening mark, a line for each line of the
paragraphs, and the closing mark. -/
def blockLines (indent : Nat) (paragraphs : List Text) : List Text :=
  let pad := List.replicate indent (CodePoint.char ' ')
  let inner := paragraphs.flatMap fun paragraph =>
    (paragraphLines paragraph.toList).map (commentLine indent)
  ((pad ++ ("/**" : Text).toList) :: inner ++ [pad ++ (" */" : Text).toList]).map Text.ofList

/-- The text of a comment block, without a break at its end. -/
def block (indent : Nat) (paragraphs : List Text) : Text :=
  Text.intercalate "\n" (blockLines indent paragraphs)

end OpenApiTypes.Comment
