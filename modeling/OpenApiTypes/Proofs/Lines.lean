import OpenApiTypes.Proofs.Blocks
import OpenApiTypes.Proofs.Segments
import OpenApiTypes.Proofs.Signatures

/-!
# The lines of a source

A source is its lines, each with a line feed at its end. Comments and literals never have a line
feed inside a line. So a source has the lines that it was written with, unless a name or a type
brings a line feed in.
-/
namespace OpenApiTypes

/-- The text of lines, each with a line feed at its end. From it the lines can be read back if none
of them has one inside. -/
def joined (lines : List Text) : List CodePoint :=
  lines.flatMap fun line => line.toList ++ [.char '\n']

/-- The text of lines and further lines is that of the lines and then that of the further ones. -/
theorem joined_append {lines more : List Text} :
    joined (lines ++ more) = joined lines ++ joined more := List.flatMap_append

/-- Lines can be read off their text when a line feed is in none of them: each of them ends at the
first line feed. -/
theorem joined_inj {lines others : List Text} (clean : ∀ line ∈ lines, .char '\n' ∉ line.toList)
    (otherClean : ∀ line ∈ others, .char '\n' ∉ line.toList) (same : joined lines = joined others) :
    lines = others := by
  have delimited : Delimited (fun line : Text => .char '\n' ∉ line.toList) Eq
      fun line => line.toList ++ [.char '\n'] := by
    intro line other rest otherRest clean otherClean equal
    rw [List.append_assoc, List.append_assoc] at equal
    obtain ⟨texts, after⟩ := append_separator_inj clean otherClean equal
    exact ⟨Text.toList_inj.1 texts, after⟩
  have alike := delimited.flatMap_inj (fun _ _ => by simp) clean otherClean same
  rwa [List.forall₂_eq_eq_eq] at alike

/-- A member whose line has no break inside: neither its name nor its type has one. -/
def Member.FitsLine {δ : Type} (member : Member δ) : Prop :=
  .char '\n' ∉ member.name.toList ∧ .char '\n' ∉ member.type.toList

/-- A declaration with an identifier for a name and no break inside a line. Its comments may be
anything. -/
def Declaration.FitsLines {δ : Type} : Declaration δ → Prop
  | interface name _ members =>
    isIdentifier name.toList = true ∧ ∀ member ∈ members, member.FitsLine
  | synonym name _ type => isIdentifier name.toList = true ∧ .char '\n' ∉ type.toList

/-- A unit with identifiers for the names of its imports and declarations and no break inside a
line. -/
structure OutputUnit.FitsLines {δ : Type} (unit : OutputUnit δ) : Prop where
  imported : ∀ statement ∈ unit.imports, ∀ name ∈ statement.names, isIdentifier name.toList = true
  declared : ∀ declaration ∈ unit.declarations, declaration.FitsLines

instance {δ : Type} (member : Member δ) : Decidable member.FitsLine :=
  inferInstanceAs (Decidable (_ ∧ _))

instance {δ : Type} (declaration : Declaration δ) : Decidable declaration.FitsLines :=
  match declaration with
  | .interface _ _ _ => inferInstanceAs (Decidable (_ ∧ _))
  | .synonym _ _ _ => inferInstanceAs (Decidable (_ ∧ _))

variable {line : Text}

/-- A list of identifiers has no character but those of names and those between the names. -/
theorem notMem_identifiers {names : List Text} {character : CodePoint}
    (identifiers : ∀ name ∈ names, isIdentifier name.toList = true)
    (foreign : isNamePart character = false) (apart : character ∉ (", " : Text).toList) :
    character ∉ (", " : Text).toList.intercalate (names.map Text.toList) := by
  intro there
  rcases Segments.mem_of_mem_intercalate there with between | ⟨segment, isName, inside⟩
  · exact apart between
  · obtain ⟨name, named, rfl⟩ := List.mem_map.1 isName
    exact notMem_identifier (identifiers name named) foreign inside

/-- The line of an import has no line feed, whatever its specifier is, since that is written as a
literal. -/
theorem ImportStatement.lineFeed_notMem {statement : ImportStatement}
    (names : ∀ name ∈ statement.names, isIdentifier name.toList = true) :
    .char '\n' ∉ statement.line.toList := by
  have list : .char '\n' ∉ (", " : Text).toList.intercalate (statement.names.map Text.toList) :=
    notMem_identifiers names (by decide) (by decide)
  have quoted : .char '\n' ∉ (Text.ofString (Text.literal statement.specifier)).toList := by
    intro there
    obtain ⟨letter, written, same⟩ := List.mem_map.1 (Text.toList_ofString _ ▸ there)
    obtain rfl := CodePoint.char.inj same
    exact absurd (Text.printable_of_mem_literal written).1 (by decide)
  simp only [ImportStatement.line, Text.toList_append, Text.toList_intercalate,
    List.mem_append, not_or]
  exact ⟨⟨⟨by decide, list⟩, by decide⟩, quoted⟩

/-- A line of a comment block has no line feed, whatever its paragraphs say. -/
theorem Comment.lineFeed_notMem {indent : Nat} {paragraphs : List Text}
    (there : line ∈ blockLines indent paragraphs) : .char '\n' ∉ line.toList := fun lineFeed =>
  absurd (not_isLineBreak_of_mem_blockLines there lineFeed) (by decide)

/-- The line of a member has no line feed, unless its name or its type brings one in. -/
theorem Member.lineFeed_notMem {δ : Type} {member : Member δ} (fits : member.FitsLine) :
    .char '\n' ∉ member.signature.toList := by
  obtain ⟨plainName, plainType⟩ := fits
  have key : .char '\n' ∉ (memberKey member.name).toList := by
    rcases memberKey_cases member.name with ⟨same, _⟩ | quoted
    · rwa [same]
    · rw [quoted, List.mem_cons, List.mem_append, List.mem_singleton]
      rintro (impossible | inside | impossible)
      · exact absurd impossible (by decide)
      · obtain ⟨character, there, written⟩ := List.mem_flatMap.1 inside
        rcases keyPoint_cases character with escaped | ⟨plain, _⟩
        · rw [escaped, List.mem_pair] at written
          rcases written with impossible | same
          · exact absurd impossible (by decide)
          · exact plainName (same ▸ there)
        · rw [plain, List.mem_singleton] at written
          exact plainName (written ▸ there)
      · exact absurd impossible (by decide)
  have mark (isMarked : Bool) (mark : List CodePoint) (plain : .char '\n' ∉ mark) :
      .char '\n' ∉ if isMarked then mark else [] := by
    cases isMarked with
    | true => exact plain
    | false => exact List.not_mem_nil
  rw [toList_signature, behindKey]
  simp only [List.mem_append, List.mem_cons, not_or]
  exact ⟨mark _ _ (by decide), key, mark _ _ (by decide), by decide, by decide, plainType⟩

/-- Lines that may have a comment before them have no line feed. It is enough to know this of the
lines behind the comment. -/
theorem Comment.lineFeed_notMem_append {indent : Nat} {paragraphs lines : List Text}
    (plain : ∀ line ∈ lines, .char '\n' ∉ line.toList)
    (there : line ∈ (if paragraphs.isEmpty then [] else blockLines indent paragraphs) ++ lines) :
    .char '\n' ∉ line.toList := by
  rcases List.mem_append.1 there with isComment | isLine
  · split at isComment
    · cases isComment
    · exact lineFeed_notMem isComment
  · exact plain line isLine

/-- The lines of a member have no line feed. The comment may be anything, and the name and the type
have none. -/
theorem Member.lineFeed_notMem_lines {member : Member Text} (fits : member.FitsLine)
    (there : line ∈ member.lines) : .char '\n' ∉ line.toList := by
  refine Comment.lineFeed_notMem_append (fun line isLine => ?_) there
  rw [List.mem_singleton.1 isLine, Text.toList_append, List.mem_append, not_or]
  exact ⟨by decide, lineFeed_notMem fits⟩

namespace Declaration

/-- The first line of a declaration has no line feed: its name is an identifier, and neither what is
before the name nor what is behind it has one. -/
theorem lineFeed_notMem_header {name before after : Text}
    (identifier : isIdentifier name.toList = true) (plain : .char '\n' ∉ before.toList)
    (plainAfter : .char '\n' ∉ after.toList) : .char '\n' ∉ (before ++ name ++ after).toList := by
  simp only [Text.toList_append, List.mem_append, not_or]
  exact ⟨⟨plain, notMem_identifier identifier (by decide)⟩, plainAfter⟩

/-- The lines of a declaration have no line feed. For an interface this is put together from its
members. -/
theorem lineFeed_notMem_lines {declaration : Declaration Text} (fits : declaration.FitsLines)
    (there : line ∈ declaration.lines) : .char '\n' ∉ line.toList := by
  refine Comment.lineFeed_notMem_append (fun line isLine => ?_) there
  cases declaration with
  | interface name comment members =>
    obtain ⟨identifier, inner⟩ := fits
    cases members with
    | nil =>
      rw [List.mem_singleton.1 isLine]
      exact lineFeed_notMem_header identifier (by decide) (by decide)
    | cons member others =>
      rcases List.mem_append.1 isLine with front | last
      · rcases List.mem_cons.1 front with rfl | isInner
        · exact lineFeed_notMem_header identifier (by decide) (by decide)
        · obtain ⟨item, isMember, inMember⟩ := List.mem_flatMap.1 isInner
          exact Member.lineFeed_notMem_lines (inner item isMember) inMember
      · rw [List.mem_singleton.1 last]
        decide
  | synonym name comment type =>
    rw [List.mem_singleton.1 isLine, Text.toList_append, List.mem_append, not_or]
    exact ⟨lineFeed_notMem_header fits.1 (by decide) (by decide), fits.2⟩

end Declaration

namespace OutputUnit

variable {unit other : OutputUnit Text}

/-- The lines of separated declarations have no line feed. The empty lines between them have no
character at all. -/
theorem lineFeed_notMem_separatedLines {declarations : List (Declaration Text)}
    (fits : ∀ declaration ∈ declarations, declaration.FitsLines)
    (there : line ∈ separatedLines declarations) : .char '\n' ∉ line.toList := by
  obtain ⟨declaration, isDeclared, inside⟩ := List.mem_flatMap.1 there
  rcases List.mem_cons.1 inside with rfl | isLine
  · exact List.not_mem_nil
  · exact Declaration.lineFeed_notMem_lines (fits declaration isDeclared) isLine

/-- The lines of a unit have no line feed. So they can be read back from its source, in which each
ends with one. -/
theorem lineFeed_notMem_lines (fits : unit.FitsLines) (there : line ∈ unit.lines) :
    .char '\n' ∉ line.toList := by
  rcases List.mem_append.1 there with isImport | isDeclared
  · obtain ⟨statement, isStatement, rfl⟩ := List.mem_map.1 isImport
    exact statement.lineFeed_notMem (fits.imported statement isStatement)
  · have declared := fits.declared
    split at isDeclared
    · rename_i first rest _ whole
      rw [whole] at declared
      rcases List.mem_append.1 isDeclared with inFirst | later
      · exact Declaration.lineFeed_notMem_lines (declared first List.mem_cons_self) inFirst
      · exact lineFeed_notMem_separatedLines
          (fun each isLater => declared each (.tail first isLater)) later
    · exact lineFeed_notMem_separatedLines declared isDeclared

/-- The source of a unit is the text of its lines, each with a line feed behind it. The separation
of declarations, which depends on what comes before, is in the lines. -/
theorem toList_source : unit.source.toList = joined unit.lines := by
  simp [source, joined, Text.toList_join, List.flatMap_map]

/-- The source of a unit determines its lines, so a law about sources is one about lines. -/
theorem lines_eq_of_source_eq (fits : unit.FitsLines) (otherFits : other.FitsLines)
    (same : unit.source = other.source) : unit.lines = other.lines := by
  have texts : joined unit.lines = joined other.lines := by
    rw [← toList_source, ← toList_source, same]
  exact joined_inj (fun _ there => lineFeed_notMem_lines fits there)
    (fun _ there => lineFeed_notMem_lines otherFits there) texts

end OutputUnit

end OpenApiTypes
