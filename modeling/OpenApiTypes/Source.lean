import OpenApiTypes.Comment
import OpenApiTypes.OutputUnit

/-!
# The source text of a unit

A unit is written as TypeScript: its imports, one in a line, and its declarations, with an empty
line before each one that is not the first thing in the file. A comment stands directly before what
it is about. An interface has one member in a line, and one without members has none.
-/
namespace OpenApiTypes

/-- What a name may start with: a letter, an underscore or a dollar sign. Letters beyond ASCII are
none here. -/
def isNameStart : CodePoint → Bool
  | .char c => ('A' ≤ c && c ≤ 'Z') || ('a' ≤ c && c ≤ 'z') || c == '_' || c == '$'
  | .surrogate _ => false

/-- What may follow the start of a name: the same characters and digits. -/
def isNamePart : CodePoint → Bool
  | .char c => isNameStart c || ('0' ≤ c && c ≤ '9')
  | .surrogate _ => false

/-- Whether a text is an identifier of ASCII characters. The empty text is none. -/
def isIdentifier : List CodePoint → Bool
  | [] => false
  | first :: rest => isNameStart first && rest.all isNamePart

/-- Whether a member key stands without quotes: an identifier does, and so does one that a single
line feed follows. -/
def isBareKey (name : List CodePoint) : Bool :=
  isIdentifier name || (name.getLast? == some (.char '\n') && isIdentifier name.dropLast)

/-- A code point of a key between quotes. The quote and the backslash are the two that need another
backslash; all others stand as they are, line breaks too. -/
def keyPoint (point : CodePoint) : List CodePoint :=
  if point = .char '"' ∨ point = .char '\\' then [.char '\\', point] else [point]

/-- The key of a member as it is written: bare if it may stand so, and between quotes otherwise. -/
def memberKey (name : Text) : Text :=
  if isBareKey name.toList then name
  else Text.ofList (.char '"' :: name.toList.flatMap keyPoint ++ [.char '"'])

/-- The paragraphs of a comment as texts. A paragraph that is no text cannot be written, and the
first one of these is the end of it. -/
def commentText (comment : List Json) : Except Failure (List Text) :=
  comment.mapM fun paragraph =>
    match paragraph.string? with
    | some text => .ok text
    | none => .error (.fault .commentNotText)

namespace Member

/-- The line of a member, without its indentation. A mark before the key says that the member is
read-only, and one behind it that the member may be missing. -/
def signature {δ : Type} (member : Member δ) : Text :=
  (if member.isReadonly then "readonly " else "") ++ memberKey member.name ++
    (if member.isOptional then "?" else "") ++ ": " ++ member.type

/-- The lines of a member inside an interface: those of its comment, if it has one, and then the one
that declares it. -/
def lines (member : Member Text) : List Text :=
  (if member.comment.isEmpty then [] else Comment.blockLines 2 member.comment) ++
    ["  " ++ member.signature]

/-- The member with the paragraphs of its comment as texts. All else of it stays as it is. -/
def withText (member : Member Json) : Except Failure (Member Text) := do
  let comment ← commentText member.comment
  return ⟨member.name, member.type, comment, member.isOptional, member.isReadonly⟩

end Member

/-- The line of an import. The specifier stands in it as a literal, so a quote or a line break in it
does no harm. -/
def ImportStatement.line (statement : ImportStatement) : Text :=
  "import \x7b" ++ Text.intercalate ", " statement.names ++ "\x7d from " ++
    Text.literal statement.specifier

namespace Declaration

/-- The comment of a declaration, of whichever of the two forms it is. -/
def comment {δ : Type} : Declaration δ → List δ
  | interface _ comment _ => comment
  | synonym _ comment _ => comment

/-- The name that a declaration declares, which is what other files import. -/
def name {δ : Type} : Declaration δ → Text
  | interface name _ _ => name
  | synonym name _ _ => name

/-- The lines of a declaration without its comment. An interface without members has a single
one. -/
def bodyLines : Declaration Text → List Text
  | interface name _ [] => ["export interface " ++ name ++ " \x7b\x7d"]
  | interface name _ members =>
    ("export interface " ++ name ++ " \x7b") :: members.flatMap Member.lines ++ [("\x7d" : Text)]
  | synonym name _ type => ["export type " ++ name ++ " = " ++ type]

/-- The lines of a declaration: those of its comment, if it has one, and behind them its own. -/
def lines (declaration : Declaration Text) : List Text :=
  (if declaration.comment.isEmpty then [] else Comment.blockLines 0 declaration.comment) ++
    declaration.bodyLines

/-- The declaration with the paragraphs of its comments as texts. The comment of the declaration is
looked at before those of its members. -/
def withText : Declaration Json → Except Failure (Declaration Text)
  | interface name comment members => do
    return .interface name (← commentText comment) (← members.mapM Member.withText)
  | synonym name comment type => do return .synonym name (← commentText comment) type

end Declaration

namespace OutputUnit

/-- The lines of declarations that follow something. An empty line stands before each of them. -/
def separatedLines (declarations : List (Declaration Text)) : List Text :=
  declarations.flatMap fun declaration => "" :: declaration.lines

/-- The lines of a unit: the imports without anything between them, and then the declarations with
an empty line before each, except where that would be the first line of the file. -/
def lines (unit : OutputUnit Text) : List Text :=
  unit.imports.map ImportStatement.line ++
    match unit.imports, unit.declarations with
    | [], first :: rest => first.lines ++ separatedLines rest
    | _, declarations => separatedLines declarations

/-- The source text of a unit. Every line of it ends with a line feed, the last one too. -/
def source (unit : OutputUnit Text) : Text :=
  Text.join (unit.lines.map (· ++ "\n"))

/-- The unit with the paragraphs of its comments as texts. Its imports have no comments. -/
def withText (unit : OutputUnit Json) : Except Failure (OutputUnit Text) := do
  return ⟨unit.home, unit.filePath, unit.imports, ← unit.declarations.mapM Declaration.withText⟩

/-- The source text of a unit whose comments come from an interface description. There is none if
one of the comments is no text. -/
def render (unit : OutputUnit Json) : Except Failure Text := unit.withText.map source

end OutputUnit

end OpenApiTypes
