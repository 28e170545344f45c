import OpenApiTypes.Template.Numeral
import OpenApiTypes.Template.Value
import OpenApiTypes.Text.Hexadecimal

/-!
# Address templates

A template is text with replacement fields in braces; a brace itself is written twice. The one
argument of a template is the version, a text. A field names it, may step from it to what belongs to
it, may ask for the outcome in quotes, and may lay it out: with a fill and an alignment, a least
width and a greatest length. A field is filled in before the next one is looked at, so of several
faults the first in reading order counts.
-/
namespace OpenApiTypes.Template

/-- A stretch of literal text, a field, or the place where the template breaks off. A field has a
name, perhaps a letter for its form, and a layout that may hold fields itself. -/
inductive Piece where
  | literal (c : Char)
  | field (name : List Char) (form : Option Char) (layout : List Char)
  | broken

/-- Where the reading of a template stands; the parts of a field are gathered last first. -/
inductive ReadState where
  | text
  | name (seen : List Char) (bracketed : Bool)
  | form (name : List Char)
  | afterForm (name : List Char) (form : Char)
  | layout (name : List Char) (form : Option Char) (seen : List Char) (depth : Nat)

/-- The pieces of a template. -/
def pieces : ReadState → List Char → List Piece
  | .text, [] => []
  | .text, '\x7b' :: '\x7b' :: rest => .literal '\x7b' :: pieces .text rest
  | .text, '\x7d' :: '\x7d' :: rest => .literal '\x7d' :: pieces .text rest
  | .text, ['\x7b'] => [.broken]
  | .text, c :: rest =>
    if c == '\x7b' then pieces (.name [] false) rest
    else if c == '\x7d' then [.broken]
    else .literal c :: pieces .text rest
  | .name seen bracketed, c :: rest =>
    if bracketed then pieces (.name (c :: seen) (c != ']')) rest
    else if c == '\x7b' then [.broken]
    else if c == '[' then pieces (.name (c :: seen) true) rest
    else if c == '\x7d' then .field seen.reverse none [] :: pieces .text rest
    else if c == ':' then pieces (.layout seen.reverse none [] 0) rest
    else if c == '!' then pieces (.form seen.reverse) rest
    else pieces (.name (c :: seen) false) rest
  | .form name, c :: rest => pieces (.afterForm name c) rest
  | .afterForm name form, c :: rest =>
    if c == '\x7d' then .field name (some form) [] :: pieces .text rest
    else if c == ':' then pieces (.layout name (some form) [] 0) rest
    else [.broken]
  | .layout name form seen depth, c :: rest =>
    if c == '\x7b' then pieces (.layout name form (c :: seen) (depth + 1)) rest
    else if c == '\x7d' then
      match depth with
      | 0 => .field name form seen.reverse :: pieces .text rest
      | depth + 1 => pieces (.layout name form (c :: seen) depth) rest
    else pieces (.layout name form (c :: seen) depth) rest
  | _, [] => [.broken]

/-- A step from a value to a part of it, or the place where the steps cannot be read. -/
inductive Access where
  | attribute (name : List Char)
  | item (key : List Char)
  | broken

/-- Where the reading of the steps stands. -/
inductive AccessState where
  | between
  | attribute (seen : List Char)
  | item (seen : List Char)

/-- A step that has been read to its end; an empty one cannot be taken. -/
def finishAccess (seen : List Char) (access : Access) : Access :=
  if seen.isEmpty then .broken else access

/-- The steps behind the name of a field. -/
def accesses : AccessState → List Char → List Access
  | .between, [] => []
  | .between, c :: rest =>
    if c == '.' then accesses (.attribute []) rest
    else if c == '[' then accesses (.item []) rest
    else [.broken]
  | .attribute seen, [] => [finishAccess seen (.attribute seen.reverse)]
  | .attribute seen, c :: rest =>
    if c == '.' then finishAccess seen (.attribute seen.reverse) :: accesses (.attribute []) rest
    else if c == '[' then finishAccess seen (.attribute seen.reverse) :: accesses (.item []) rest
    else accesses (.attribute (c :: seen)) rest
  | .item _, [] => [.broken]
  | .item seen, c :: rest =>
    if c == ']' then finishAccess seen (.item seen.reverse) :: accesses .between rest
    else accesses (.item (c :: seen)) rest

/-- Take one step. What asks for an item is a position where it is a number, and a name otherwise.
-/
def Value.step (value : Value) : Access → Except Problem Value
  | .broken => .error .malformed
  | .attribute name =>
    match value.attribute? (String.ofList name) with
    | some found => .ok found
    | none => .error .noSuchAttribute
  | .item key => do
    match ← count? key with
    | some index => value.item? (.position index)
    | none => value.item? (.name key)

/-- The value that the name of a field denotes. Arguments have names only; a number, or nothing,
counts arguments that are not there. -/
def evaluate (version : List Char) (name : List Char) : Except Problem Value := do
  let first := name.takeWhile fun c => c != '.' && c != '['
  if first.isEmpty || (← count? first).isSome then throw .noSuchPosition
  if first ≠ "version".toList then throw .noSuchName
  (accesses .between (name.drop first.length)).foldlM Value.step (.text version)

/-- Every character outside ASCII written by its code in a quoted text. -/
def asciiOnly (text : List Char) : List Char :=
  text.flatMap fun c =>
    if c.toNat < 0x80 then [c]
    else if c.toNat < 0x100 then '\\' :: 'x' :: Text.hexadecimal 2 c.toNat
    else if c.toNat < 0x10000 then '\\' :: 'u' :: Text.hexadecimal 4 c.toNat
    else '\\' :: 'U' :: Text.hexadecimal 8 c.toNat

/-- A value in the form that a letter asks for. -/
def Value.inForm (value : Value) : Option Char → Except Problem Value
  | none => .ok value
  | some 's' => .ok (.text value.display.toList)
  | some 'r' => .ok (.text value.shown.toList)
  | some 'a' => .ok (.text (asciiOnly value.shown.toList))
  | some _ => .error .malformed

/-- The text of a value in a layout. The empty layout suits every value, any other texts and numbers
only; a truth value is then a number. -/
def Value.laidOut : Value → List Char → Except Problem (List Char)
  | .text content, layout => textLaidOut content layout
  | value, [] => .ok value.display.toList
  | .number amount, layout => numberLaidOut amount layout
  | .truth holds, layout => numberLaidOut holds.toNat layout
  | _, _ => .error .noLayout

/-- Fill in the pieces of a template. A layout is a template in turn, to the given depth. -/
def fillIn (version : List Char) : Nat → List Char → Except Problem (List Char)
  | 0, _ => .error .malformed
  | depth + 1, template => do
    let texts ← (pieces .text template).mapM fun piece =>
      match piece with
      | .literal c => return [c]
      | .broken => throw .malformed
      | .field name form layout => do
        let value ← (← evaluate version name).inForm form
        let layout ← if layout.contains '\x7b' then fillIn version depth layout else pure layout
        value.laidOut layout
    return texts.flatten

/-- The address that a template gives for a version. A layout may hold fields; those may not have
layouts with fields again. -/
def expand (template version : String) : Except Problem String :=
  (fillIn version.toList 2 template.toList).map String.ofList

end OpenApiTypes.Template
