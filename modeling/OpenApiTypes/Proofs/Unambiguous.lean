import OpenApiTypes.Proofs.Lines
import OpenApiTypes.Proofs.Rereading

/-!
# A source says what its unit is

Every part of a source tells by its first line what it is and by its last one where it ends. Imports
and other names for types have one line each, the members of an interface go on to the closing
brace, and a comment is told from what it is about by the mark that begins it. So two units with one
source have the same imports and the same declarations, and comments that read the same.
-/
namespace OpenApiTypes

variable {rest otherRest : List Text}

/-- Two imports say the same: they take the same names from specifiers that have one composed form.
-/
structure ImportStatement.Alike (statement other : ImportStatement) : Prop where
  specifier : statement.specifier.composed = other.specifier.composed
  names : statement.names = other.names

/-- The line of an import determines its names, and its specifier as far as its literal does. -/
theorem ImportStatement.alike_of_line_eq {statement other : ImportStatement}
    (names : ∀ name ∈ statement.names, isIdentifier name.toList = true)
    (otherNames : ∀ name ∈ other.names, isIdentifier name.toList = true)
    (same : statement.line = other.line) : statement.Alike other := by
  have clean {names : List Text} (identifiers : ∀ name ∈ names, isIdentifier name.toList = true) :
      ∀ text ∈ names.map Text.toList, .char ',' ∉ text ∧ text ≠ [] := by
    intro text there
    obtain ⟨name, isName, rfl⟩ := List.mem_map.1 there
    obtain ⟨first, later, whole, _⟩ := exists_nameStart (identifiers name isName)
    refine ⟨notMem_identifier (identifiers name isName) (by decide), ?_⟩
    rw [whole]
    exact List.cons_ne_nil first later
  have brace : ("\x7d from " : Text).toList = .char '\x7d' :: (" from " : Text).toList := by decide
  have texts := congrArg Text.toList same
  simp only [line, Text.toList_append, Text.toList_intercalate, List.append_assoc, brace,
    List.cons_append] at texts
  obtain ⟨lists, behind⟩ := append_separator_inj (notMem_identifiers names (by decide) (by decide))
    (notMem_identifiers otherNames (by decide) (by decide)) (List.append_cancel_left texts)
  have injective : Function.Injective Text.toList := fun _ _ => Text.toList_inj.1
  have list : statement.names = other.names :=
    List.map_injective_iff.2 injective (intercalate_inj (clean names) (clean otherNames) lists)
  have letters := congrArg Text.ofList (List.append_cancel_left behind)
  rw [Text.ofList_toList, Text.ofList_toList, Text.ofString_inj] at letters
  exact ⟨Text.literal_inj.1 letters, list⟩

namespace Member

/-- Two members say the same: they have the same name, type and marks, and comments that read the
same. -/
structure Alike (member other : Member Text) : Prop where
  name : member.name = other.name
  type : member.type = other.type
  isOptional : member.isOptional = other.isOptional
  isReadonly : member.isReadonly = other.isReadonly
  comment : Comment.Alike member.comment other.comment

/-- The line of a member begins with no slash: it begins with a quote, with the word for read-only
members, or with a character of names. -/
theorem signature_ne_slash {δ : Type} {member : Member δ} {rest : List CodePoint} :
    member.signature.toList ≠ .char '/' :: rest := by
  rw [toList_signature]
  cases member.isReadonly with
  | true => exact fun same => absurd (List.cons.inj same).1 (by decide)
  | false =>
    rw [if_neg Bool.false_ne_true, List.nil_append]
    rcases memberKey_cases member.name with ⟨plain, bare⟩ | quoted
    · obtain ⟨⟨first, later, whole, start⟩, _⟩ := bareKey_parts bare
      rw [plain, whole]
      intro same
      rw [(List.cons.inj same).1] at start
      exact absurd start (by decide)
    · rw [quoted]
      exact fun same => absurd (List.cons.inj same).1 (by decide)

/-- The lines of a member are determined by themselves. Its own line begins with no slash, so it
is told from a comment before it, and from the lines of the member behind it since it is a single
one. -/
theorem delimited_lines : Delimited (fun _ => True) Alike lines := by
  intro member other rest otherRest _ _ same
  have noBlock (member : Member Text) (rest : List Text) :
      (["  " ++ member.signature] ++ rest).head? ≠ some (Comment.opening 2) := by
    intro begins
    have texts := congrArg Text.toList (Option.some.inj begins)
    rw [Text.toList_append] at texts
    exact signature_ne_slash (List.append_cancel_left texts)
  rw [lines, lines, List.append_assoc, List.append_assoc] at same
  obtain ⟨comment, behind⟩ :=
    Comment.alike_of_lines (noBlock member rest) (noBlock other otherRest) same
  obtain ⟨line, after⟩ := List.cons.inj behind
  have texts := congrArg Text.toList line
  rw [Text.toList_append, Text.toList_append] at texts
  obtain ⟨name, type, isOptional, isReadonly⟩ :=
    signature_inj (Text.toList_inj.1 (List.append_cancel_left texts))
  exact ⟨⟨name, type, isOptional, isReadonly, comment⟩, after⟩

/-- The lines of a member are not the one that ends an interface, as each of them begins with a
blank. -/
theorem lines_ne_closing {member : Member Text} :
    (member.lines ++ rest).head? ≠ some "\x7d" := by
  intro begins
  unfold lines at begins
  split at begins
  · have texts := congrArg Text.toList (Option.some.inj begins)
    rw [Text.toList_append] at texts
    exact absurd (List.cons.inj texts).1 (by decide)
  · exact absurd (Option.some.inj begins) (by decide : Comment.opening 2 ≠ "\x7d")

end Member

namespace Declaration

/-- Two declarations say the same: they are of one kind and have the same name, the same members or
the same type, and comments that read the same. -/
inductive Alike : Declaration Text → Declaration Text → Prop where
  | interface {name : Text} {comment otherComment : List Text}
      {members otherMembers : List (Member Text)}
      (comments : Comment.Alike comment otherComment)
      (alike : List.Forall₂ Member.Alike members otherMembers) :
      Alike (.interface name comment members) (.interface name otherComment otherMembers)
  | synonym {name type : Text} {comment otherComment : List Text}
      (comments : Comment.Alike comment otherComment) :
      Alike (.synonym name comment type) (.synonym name otherComment type)

/-- An interface with members ends in a line of its own. Without members the two braces are in the
first line, which is the other form that an interface has. -/
theorem bodyLines_interface {name : Text} {comment : List Text} {member : Member Text}
    {others : List (Member Text)} :
    (interface name comment (member :: others)).bodyLines ++ rest =
      ("export interface " ++ name ++ " \x7b") ::
        ((member :: others).flatMap Member.lines ++ ("\x7d" : Text) :: rest) :=
  congrArg _ (List.append_assoc _ [("\x7d" : Text)] rest)

/-- Another name for a type has one line, in which the type is behind the name. -/
theorem bodyLines_synonym {name type : Text} {comment : List Text} :
    (synonym name comment type).bodyLines ++ rest =
      ("export type " ++ name ++ (" = " ++ type)) :: rest :=
  congrArg (· :: rest) (Text.append_assoc ..)

/-- The name in the first line of a declaration is determined by the blank behind it, because an
identifier has no blank. -/
theorem header_inj {before name other after otherAfter : Text}
    (identifier : isIdentifier name.toList = true)
    (otherIdentifier : isIdentifier other.toList = true)
    (blank : after.toList.head? = some (.char ' '))
    (otherBlank : otherAfter.toList.head? = some (.char ' '))
    (same : before ++ name ++ after = before ++ other ++ otherAfter) :
    name = other ∧ after = otherAfter := by
  have texts := congrArg Text.toList same
  simp only [Text.toList_append, List.append_assoc] at texts
  obtain ⟨behind, whole⟩ := List.head?_eq_some_iff.1 blank
  obtain ⟨otherBehind, otherWhole⟩ := List.head?_eq_some_iff.1 otherBlank
  rw [whole, otherWhole] at texts
  obtain ⟨names, ends⟩ := append_separator_inj (notMem_identifier identifier (by decide))
    (notMem_identifier otherIdentifier (by decide)) (List.append_cancel_left texts)
  refine ⟨Text.toList_inj.1 names, Text.toList_inj.1 ?_⟩
  rw [whole, otherWhole, ends]

/-- The first lines of interfaces and of other names for types differ in their second word. The
texts behind that word need not be anything in particular. -/
theorem interface_ne_synonym {name other after otherAfter : Text} :
    "export interface " ++ name ++ after ≠ "export type " ++ other ++ otherAfter := by
  intro same
  have texts := congrArg (fun text => text.toList.take 8) same
  simp only [Text.toList_append, List.append_assoc] at texts
  exact absurd texts (by decide : ("export i" : Text).toList ≠ ("export t" : Text).toList)

/-- The first line behind the comment of a declaration begins with the word for what is exported. It
is by its first letter that a declaration is told from an import and from a comment. -/
theorem head?_bodyLines {declaration : Declaration Text} :
    ∃ line, (declaration.bodyLines ++ rest).head? = some line ∧
      line.toList.head? = some (.char 'e') := by
  have header (before name after : Text) (begins : before.toList.head? = some (.char 'e')) :
      (before ++ name ++ after).toList.head? = some (.char 'e') := by
    rw [Text.toList_append, Text.toList_append, List.append_assoc, List.head?_append, begins]
    rfl
  cases declaration with
  | interface name comment members =>
    cases members with
    | nil => exact ⟨_, rfl, header _ _ _ (by decide)⟩
    | cons member others => exact ⟨_, rfl, header _ _ _ (by decide)⟩
  | synonym name comment type =>
    rw [bodyLines_synonym]
    exact ⟨_, rfl, header _ _ _ (by decide)⟩

/-- Interfaces without their comments are determined by themselves: one without members ends its
line in another way than one that has some, whose last line is the closing brace. -/
theorem interface_append_inj {name other : Text} {comment otherComment : List Text}
    {members otherMembers : List (Member Text)} (identifier : isIdentifier name.toList = true)
    (otherIdentifier : isIdentifier other.toList = true)
    (same : (interface name comment members).bodyLines ++ rest =
      (interface other otherComment otherMembers).bodyLines ++ otherRest) :
    name = other ∧ List.Forall₂ Member.Alike members otherMembers ∧ rest = otherRest := by
  have header {after otherAfter : Text} (blank : after.toList.head? = some (.char ' '))
      (otherBlank : otherAfter.toList.head? = some (.char ' '))
      (line : "export interface " ++ name ++ after = "export interface " ++ other ++ otherAfter) :
      name = other ∧ after = otherAfter :=
    header_inj identifier otherIdentifier blank otherBlank line
  -- With members on one side only, the first lines end in different ways.
  cases members with
  | nil =>
    cases otherMembers with
    | nil =>
      obtain ⟨line, after⟩ := List.cons.inj same
      exact ⟨(header (by decide) (by decide) line).1, .nil, after⟩
    | cons otherMember otherLater =>
      have ends := (header (by decide) (by decide) (List.cons.inj same).1).2
      exact absurd ends (by decide)
  | cons member later =>
    cases otherMembers with
    | nil =>
      have ends := (header (by decide) (by decide) (List.cons.inj same).1).2
      exact absurd ends (by decide)
    | cons otherMember otherLater =>
      rw [bodyLines_interface, bodyLines_interface] at same
      obtain ⟨line, behind⟩ := List.cons.inj same
      obtain ⟨alike, closed⟩ := Member.delimited_lines.flatMap (·.head? = some "\x7d")
        (fun _ _ _ => Member.lines_ne_closing) (fun _ _ => trivial) (fun _ _ => trivial)
        rfl rfl behind
      exact ⟨(header (by decide) (by decide) line).1, alike, (List.cons.inj closed).2⟩

/-- Other names for types are determined by their line. The name ends at the blank behind it, and
the type is the rest. -/
theorem synonym_append_inj {name other type otherType : Text}
    {comment otherComment : List Text} (identifier : isIdentifier name.toList = true)
    (otherIdentifier : isIdentifier other.toList = true)
    (same : (synonym name comment type).bodyLines ++ rest =
      (synonym other otherComment otherType).bodyLines ++ otherRest) :
    name = other ∧ type = otherType ∧ rest = otherRest := by
  have blank (type : Text) : (" = " ++ type).toList.head? = some (.char ' ') := by
    rw [Text.toList_append]
    rfl
  rw [bodyLines_synonym, bodyLines_synonym] at same
  obtain ⟨line, after⟩ := List.cons.inj same
  obtain ⟨names, types⟩ := header_inj identifier otherIdentifier (blank type) (blank otherType) line
  have texts := congrArg Text.toList types
  rw [Text.toList_append, Text.toList_append] at texts
  exact ⟨names, Text.toList_inj.1 (List.append_cancel_left texts), after⟩

/-- An interface is not another name for a type. Their first lines differ in the second word. -/
theorem interface_append_ne_synonym {name other type : Text} {comment otherComment : List Text}
    {members : List (Member Text)} :
    (interface name comment members).bodyLines ++ rest ≠
      (synonym other otherComment type).bodyLines ++ otherRest := by
  intro same
  rw [bodyLines_synonym] at same
  cases members with
  | nil => exact interface_ne_synonym (List.cons.inj same).1
  | cons member later => exact interface_ne_synonym (List.cons.inj same).1

/-- The lines of a declaration are determined by themselves. The comment, if there is one, ends
where its mark says so, and what is behind it is an interface up to the closing brace or another
name for a type, which is one line. -/
theorem delimited_lines : Delimited FitsLines Alike lines := by
  intro declaration other rest otherRest fits otherFits same
  have noBlock (declaration : Declaration Text) (rest : List Text) :
      (declaration.bodyLines ++ rest).head? ≠ some (Comment.opening 0) := by
    obtain ⟨line, begins, exported⟩ : ∃ line, (declaration.bodyLines ++ rest).head? = some line ∧
      line.toList.head? = some (.char 'e') := head?_bodyLines
    rw [begins]
    intro isOpening
    rw [Option.some.inj isOpening] at exported
    exact absurd exported (by decide)
  rw [lines, lines, List.append_assoc, List.append_assoc] at same
  obtain ⟨comments, behind⟩ :=
    Comment.alike_of_lines (noBlock declaration rest) (noBlock other otherRest) same
  cases declaration with
  | interface name comment members =>
    cases other with
    | interface otherName otherComment otherMembers =>
      obtain ⟨rfl, alike, after⟩ := interface_append_inj fits.1 otherFits.1 behind
      exact ⟨.interface comments alike, after⟩
    | synonym otherName otherComment otherType =>
      exact absurd behind interface_append_ne_synonym
  | synonym name comment type =>
    cases other with
    | interface otherName otherComment otherMembers =>
      exact absurd behind.symm interface_append_ne_synonym
    | synonym otherName otherComment otherType =>
      obtain ⟨rfl, rfl, after⟩ := synonym_append_inj fits.1 otherFits.1 behind
      exact ⟨.synonym comments, after⟩

end Declaration

namespace OutputUnit

variable {unit other : OutputUnit Text}

/-- Declarations with empty lines before them are determined when nothing follows. Each of them
takes its own lines from the front, and the induction goes on with what it leaves. -/
theorem separatedLines_inj {declarations others : List (Declaration Text)}
    (fits : ∀ declaration ∈ declarations, declaration.FitsLines)
    (otherFits : ∀ declaration ∈ others, declaration.FitsLines)
    (same : separatedLines declarations = separatedLines others) :
    List.Forall₂ Declaration.Alike declarations others := by
  have delimited : Delimited Declaration.FitsLines Declaration.Alike
      fun declaration : Declaration Text => ("" : Text) :: declaration.lines :=
    fun declaration other rest otherRest fits otherFits equal =>
      Declaration.delimited_lines declaration other rest otherRest fits otherFits
        (List.cons.inj equal).2
  exact delimited.flatMap_inj (fun _ _ => List.cons_ne_nil _ _) fits otherFits same

/-- The lines of a unit behind its imports, with the empty lines that part them from the imports and
from each other. -/
def declarationLines (unit : OutputUnit Text) : List Text :=
  match unit.imports, unit.declarations with
  | [], first :: rest => first.lines ++ separatedLines rest
  | _, declarations => separatedLines declarations

/-- The lines of a unit are those of its imports, one each, and behind them all others. The empty
line between the two counts as one of the others, because it is there only if both have any. -/
theorem lines_eq : unit.lines = unit.imports.map ImportStatement.line ++ unit.declarationLines :=
  rfl

/-- No import begins a list of lines: it is empty, or its first line does not begin with the letter
that imports begin with. -/
def EndsImports (lines : List Text) : Prop :=
  ∀ line ∈ lines.head?, line.toList.head? ≠ some (.char 'i')

/-- What stands behind the imports is no import: it is nothing, an empty line, a comment or an
exported declaration, and none of these begins with the letter that imports begin with. -/
theorem endsImports_declarationLines : EndsImports unit.declarationLines := by
  have separated (declarations : List (Declaration Text)) :
      EndsImports (separatedLines declarations) := by
    intro line begins
    cases declarations with
    | nil => cases begins
    | cons first others =>
      cases begins
      decide
  unfold declarationLines
  split
  · rename_i first others _ _
    intro line begins
    unfold Declaration.lines at begins
    split at begins
    · obtain ⟨text, isFirst, exported⟩ : ∃ text,
          (first.bodyLines ++ separatedLines others).head? = some text ∧
            text.toList.head? = some (.char 'e') := Declaration.head?_bodyLines
      rw [List.nil_append, isFirst] at begins
      cases begins
      rw [exported]
      decide
    · cases begins
      decide
  · exact separated _

/-- The lines behind the same imports make the declarations alike. With imports an empty line is
before each declaration; without them the first declaration has none, and there is nothing to be
seen if there are no declarations at all. -/
theorem alike_of_declarationLines
    (fits : ∀ declaration ∈ unit.declarations, declaration.FitsLines)
    (otherFits : ∀ declaration ∈ other.declarations, declaration.FitsLines)
    (imports : unit.imports = [] ↔ other.imports = [])
    (same : unit.declarationLines = other.declarationLines) :
    List.Forall₂ Declaration.Alike unit.declarations other.declarations := by
  have something (first : Declaration Text) (others : List (Declaration Text)) :
      first.lines ++ separatedLines others ≠ [] := by
    obtain ⟨line, begins, _⟩ : ∃ line, (first.bodyLines ++ []).head? = some line ∧
      line.toList.head? = some (.char 'e') := Declaration.head?_bodyLines
    intro nothing
    obtain ⟨_, noBody⟩ := List.append_eq_nil_iff.1 (List.append_eq_nil_iff.1 nothing).1
    rw [noBody] at begins
    cases begins
  unfold declarationLines at same
  -- Only without imports does the first declaration stand there without an empty line before it.
  cases otherImports : other.imports with
  | cons statement others =>
    obtain ⟨first, later, ownImports⟩ : ∃ first later, unit.imports = first :: later :=
      List.exists_cons_of_ne_nil (by rw [ne_eq, imports, otherImports]; exact List.cons_ne_nil _ _)
    rw [ownImports, otherImports] at same
    exact separatedLines_inj fits otherFits same
  | nil =>
    rw [imports.2 otherImports, otherImports] at same
    cases declared : unit.declarations with
    | nil =>
      cases otherDeclared : other.declarations with
      | nil => exact .nil
      | cons first later =>
        rw [declared, otherDeclared] at same
        exact absurd same.symm (something first later)
    | cons first rest =>
      cases otherDeclared : other.declarations with
      | nil =>
        rw [declared, otherDeclared] at same
        exact absurd same (something first rest)
      | cons otherFirst otherRest =>
        rw [declared, otherDeclared] at same
        rw [declared] at fits
        rw [otherDeclared] at otherFits
        obtain ⟨alike, behind⟩ := Declaration.delimited_lines first otherFirst _ _
          (fits first List.mem_cons_self) (otherFits otherFirst List.mem_cons_self) same
        exact .cons alike (separatedLines_inj (fun each there => fits each (.tail first there))
          (fun each there => otherFits each (.tail otherFirst there)) behind)

/-- The lines of two units that are the same make their imports and their declarations alike.

Proof: every import is one line and is known as one by its first letter, so the imports are taken
off the front until the first line that is no import. Then both units have imports or neither has,
and that settles whether an empty line is before the first declaration. -/
theorem alike_of_lines_eq (fits : unit.FitsLines) (otherFits : other.FitsLines)
    (same : unit.lines = other.lines) :
    List.Forall₂ ImportStatement.Alike unit.imports other.imports ∧
      List.Forall₂ Declaration.Alike unit.declarations other.declarations := by
  have delimited : Delimited
      (fun statement : ImportStatement => ∀ name ∈ statement.names, isIdentifier name.toList = true)
      ImportStatement.Alike fun statement => [statement.line] :=
    fun statement other rest otherRest names otherNames equal =>
      ⟨ImportStatement.alike_of_line_eq names otherNames (List.cons.inj equal).1,
        (List.cons.inj equal).2⟩
  have apart (statement : ImportStatement) (rest : List Text)
      (_ : ∀ name ∈ statement.names, isIdentifier name.toList = true) :
      ¬ EndsImports ([statement.line] ++ rest) := by
    intro ends
    refine ends statement.line rfl ?_
    simp only [ImportStatement.line, Text.toList_append, List.append_assoc]
    rfl
  rw [lines_eq, lines_eq, List.map_eq_flatMap, List.map_eq_flatMap] at same
  obtain ⟨alike, behind⟩ := delimited.flatMap EndsImports apart fits.imported otherFits.imported
    endsImports_declarationLines endsImports_declarationLines same
  have none : unit.imports = [] ↔ other.imports = [] := by
    rw [← List.length_eq_zero_iff, alike.length_eq, List.length_eq_zero_iff]
  exact ⟨alike, alike_of_declarationLines fits.declared otherFits.declared none behind⟩

end OutputUnit

/-- Units with one source have imports that agree one by one in their names and in the composed
forms of their specifiers, and declarations that agree one by one in their kinds, names, types and
members and in what their comments say. The specifiers of imports and the descriptions may be any
texts; imported and declared names are identifiers, and no other text breaks its line.

Of a specifier no more can be told than its composed form, since a pair of surrogates is written
like the character that it encodes. A specifier without such pairs is its own composed form.

Proof: no line has a line break inside, so the source gives back the lines of the unit. The imports
are then read off the front, the declarations behind them one after the other, and in each of these
the comment first. -/
theorem alike_of_source (unit other : OutputUnit Text) (fits : unit.FitsLines)
    (otherFits : other.FitsLines) (same : unit.source = other.source) :
    List.Forall₂ ImportStatement.Alike unit.imports other.imports ∧
      List.Forall₂ Declaration.Alike unit.declarations other.declarations :=
  OutputUnit.alike_of_lines_eq fits otherFits
    (OutputUnit.lines_eq_of_source_eq fits otherFits same)

/-- A unit with a member named like the mark for read-only ones, with given descriptions of its
interface and of that member. -/
def describedUnit (comment memberComment : List Text) : OutputUnit Text where
  home := "a"
  filePath := "a.ts"
  imports := [⟨"./\n\"/*", ["T", "U"]⟩]
  declarations := [
    .interface "V" comment [⟨"readonly", "\x7d", memberComment, false, true⟩],
    .synonym "W" [] "Array<T>"]

/-- Two paragraphs read like one with a line break, and blanks at the end of a line do not count, so
different units may have one source; still it says everything else. -/
theorem alike_of_source_of_described :
    describedUnit ["a", "b"] ["*/ "] ≠ describedUnit ["a\u2028b"] ["*\\/"] ∧
      (describedUnit ["a", "b"] ["*/ "]).FitsLines ∧
      (describedUnit ["a\u2028b"] ["*\\/"]).FitsLines ∧
      (describedUnit ["a", "b"] ["*/ "]).source = (describedUnit ["a\u2028b"] ["*\\/"]).source ∧
      List.Forall₂ Declaration.Alike (describedUnit ["a", "b"] ["*/ "]).declarations
        (describedUnit ["a\u2028b"] ["*\\/"]).declarations := by
  have fits : (describedUnit ["a", "b"] ["*/ "]).FitsLines := ⟨by decide, by decide⟩
  have otherFits : (describedUnit ["a\u2028b"] ["*\\/"]).FitsLines := ⟨by decide, by decide⟩
  have same : (describedUnit ["a", "b"] ["*/ "]).source =
      (describedUnit ["a\u2028b"] ["*\\/"]).source := by decide +kernel
  exact ⟨by decide, fits, otherFits, same, (alike_of_source _ _ fits otherFits same).2⟩

/-- A unit that imports one type from a specifier. -/
def importingUnit (specifier : Text) : OutputUnit Text where
  home := "a"
  filePath := "a.ts"
  imports := [⟨specifier, ["T"]⟩]
  declarations := []

/-- Imports from a pair of surrogates and from the character that it encodes have one source. -/
theorem source_of_splitPair :
    (importingUnit Text.splitPair).FitsLines ∧ (importingUnit "😀").FitsLines ∧
      (importingUnit Text.splitPair).source = (importingUnit "😀").source ∧
      (importingUnit Text.splitPair).imports ≠ (importingUnit "😀").imports :=
  ⟨⟨by decide, by decide⟩, ⟨by decide, by decide⟩, by decide +kernel, by decide⟩

end OpenApiTypes
