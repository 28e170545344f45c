import OpenApiTypes.Proofs.Erasure

/-!
# Code apart from its comments

The names and types of a unit are written as they are, or with escapes that bring no mark of a
comment in. So a line of code holds the beginning of a comment only if one of these texts does, and
taking the comments out of the source of a unit gives the source of the unit without documentation.
-/
namespace OpenApiTypes

open Text (Avoids)

/-- A member without its comment. -/
def Member.undocumented {δ : Type} (member : Member δ) : Member δ := { member with comment := [] }

namespace Declaration

/-- A declaration without its comment and without those of its members. All else stays as it is. -/
def undocumented {δ : Type} : Declaration δ → Declaration δ
  | interface name _ members => interface name [] (members.map Member.undocumented)
  | synonym name _ type => synonym name [] type

/-- The texts of a declaration that are written as code: its name, and what it says of its members
or of the type that it stands for. -/
def codeTexts {δ : Type} : Declaration δ → List Text
  | interface name _ members => name :: members.flatMap fun member => [member.name, member.type]
  | synonym name _ type => [name, type]

/-- A comment is no code, so a declaration without its comments has the same texts of code. -/
theorem codeTexts_undocumented {δ : Type} (declaration : Declaration δ) :
    declaration.undocumented.codeTexts = declaration.codeTexts := by
  cases declaration with
  | interface name comment members => simp [undocumented, codeTexts, List.flatMap_map,
      Member.undocumented]
  | synonym name comment type => rfl

end Declaration

namespace OutputUnit

/-- A unit without any comment. -/
def undocumented {δ : Type} (unit : OutputUnit δ) : OutputUnit δ :=
  { unit with declarations := unit.declarations.map Declaration.undocumented }

/-- The texts of a unit that are written as code: those of its imports and of its declarations. The
path of its file is not among them. -/
def codeTexts {δ : Type} (unit : OutputUnit δ) : List Text :=
  (unit.imports.flatMap fun statement => statement.specifier :: statement.names) ++
    unit.declarations.flatMap Declaration.codeTexts

/-- A unit without its comments has the same texts of code. What is asked of these texts is
therefore asked of every unit that differs in its comments alone. -/
theorem codeTexts_undocumented {δ : Type} (unit : OutputUnit δ) :
    unit.undocumented.codeTexts = unit.codeTexts := by
  simp [undocumented, codeTexts, List.flatMap_map, Declaration.codeTexts_undocumented]

end OutputUnit

/-- The line of an import holds the beginning of a comment only if the specifier or a name does. -/
theorem ImportStatement.avoids_line {statement : ImportStatement}
    (specifier : Avoids (.char '/') (.char '*') statement.specifier.toList)
    (names : ∀ name ∈ statement.names, Avoids (.char '/') (.char '*') name.toList) :
    Avoids (.char '/') (.char '*') statement.line.toList := by
  have list : Avoids (.char '/') (.char '*') (Text.intercalate ", " statement.names).toList := by
    rw [Text.toList_intercalate]
    refine Text.avoids_intercalate (by decide) fun segment there => ?_
    obtain ⟨name, isName, rfl⟩ := List.mem_map.1 there
    exact names name isName
  have front : Avoids (.char '/') (.char '*') (("import \x7b" : Text).toList ++
      (Text.intercalate ", " statement.names).toList ++ ("\x7d from " : Text).toList) :=
    (list.plain_append (by decide)).append_plain (by decide)
  rw [line, Text.toList_append, Text.toList_append, Text.toList_append]
  refine front.append (Text.avoids_literal specifier) fun ends => ?_
  rw [List.getLast?_append_of_ne_nil _ (by decide)] at ends
  exact absurd ends (by decide)

/-- The key of a member holds the beginning of a comment only if its name does. A name that is
quoted has escapes in place of some characters; neither character of that mark is replaced, and no
escape holds one of them. -/
theorem avoids_memberKey {name : Text} (plain : Avoids (.char '/') (.char '*') name.toList) :
    Avoids (.char '/') (.char '*') (memberKey name).toList := by
  have themselves (character written : CodePoint) (there : written ∈ keyPoint character)
      (mark : written = .char '/' ∨ written = .char '*') :
      keyPoint character = [character] ∧ written = character := by
    unfold keyPoint at there ⊢
    split at there
    · rename_i quoted
      have special : character = .char '"' ∨ character = .char '\\' := by simpa using quoted
      rcases mark with rfl | rfl <;> rcases special with rfl | rfl <;> simp at there
    · rename_i unquoted
      rw [if_neg unquoted]
      exact ⟨rfl, List.mem_singleton.1 there⟩
  have something (character : CodePoint) : keyPoint character ≠ [] := by
    unfold keyPoint
    split <;> exact List.cons_ne_nil _ _
  unfold memberKey
  split
  · exact plain
  · rw [Text.toList_ofList, ← List.singleton_append, List.append_assoc]
    exact ((plain.flatMap themselves something).append_plain (by decide)).plain_append (by decide)

namespace Member

variable {member : Member Text}

/-- The line of a member holds the beginning of a comment only if its name or its type does. -/
theorem avoids_signature (name : Avoids (.char '/') (.char '*') member.name.toList)
    (type : Avoids (.char '/') (.char '*') member.type.toList) :
    Avoids (.char '/') (.char '*') ("  " ++ member.signature).toList := by
  have mark (isMarked : Bool) (mark : String)
      (plain : .char '/' ∉ (mark : Text).toList ∧ .char '*' ∉ (mark : Text).toList) :
      .char '/' ∉ (Text.ofString (if isMarked then mark else "")).toList ∧
        .char '*' ∉ (Text.ofString (if isMarked then mark else "")).toList := by
    cases isMarked with
    | true => exact plain
    | false => exact ⟨List.not_mem_nil, List.not_mem_nil⟩
  have key : Avoids (.char '/') (.char '*') (memberKey member.name).toList := avoids_memberKey name
  simp only [signature, Text.toList_append]
  refine Avoids.plain_append (by decide) (Avoids.append ?_ type fun ends => ?_)
  · refine Avoids.append_plain (Avoids.append_plain ?_ (mark _ "?" (by decide))) (by decide)
    exact key.plain_append (mark _ "readonly " (by decide))
  · rw [List.getLast?_append_of_ne_nil _ (by decide)] at ends
    exact absurd ends (by decide)

end Member

namespace Comment

/-- A comment that may be missing leaves nothing: without paragraphs there is none, and otherwise
all its lines are inside of the marks. -/
theorem Leaves.comment {indent : Nat} {paragraphs : List Text} :
    Leaves (if paragraphs.isEmpty then [] else blockLines indent paragraphs) [] := by
  split
  · exact .nil
  · exact .block

end Comment

open Comment (Leaves)

/-- A member leaves its line. Its comment goes as a whole, with its indentation and its line
breaks. -/
theorem Member.leaves {member : Member Text}
    (name : Avoids (.char '/') (.char '*') member.name.toList)
    (type : Avoids (.char '/') (.char '*') member.type.toList) :
    Leaves member.lines member.undocumented.lines :=
  Leaves.comment.append (.code (Member.avoids_signature name type) .nil)

namespace Declaration

variable {declaration : Declaration Text}

/-- The first line of a declaration holds the beginning of a comment only if the name does. -/
theorem avoids_header {name before after : Text}
    (plain : Avoids (.char '/') (.char '*') name.toList)
    (isBefore : .char '/' ∉ before.toList ∧ .char '*' ∉ before.toList)
    (isAfter : .char '/' ∉ after.toList ∧ .char '*' ∉ after.toList) :
    Avoids (.char '/') (.char '*') (before ++ name ++ after).toList := by
  rw [Text.toList_append, Text.toList_append]
  exact (plain.plain_append isBefore).append_plain isAfter

/-- What follows the comment of a declaration leaves its lines of code. For an interface these are
the first line, the lines of the members without their comments, and the closing brace. -/
theorem leaves_bodyLines
    (plain : ∀ text ∈ declaration.codeTexts, Avoids (.char '/') (.char '*') text.toList) :
    Leaves declaration.bodyLines declaration.undocumented.bodyLines := by
  cases declaration with
  | interface name comment members =>
    have isName : Avoids (.char '/') (.char '*') name.toList := plain name List.mem_cons_self
    cases members with
    | nil => exact .code (avoids_header isName (by decide) (by decide)) .nil
    | cons member others =>
      have items : ∀ item ∈ member :: others, Leaves item.lines item.undocumented.lines := by
        intro item there
        have inside : ∀ text ∈ [item.name, item.type], Avoids (.char '/') (.char '*') text.toList :=
          fun text isText => plain text
            (List.mem_cons_of_mem name (List.mem_flatMap.2 ⟨item, there, isText⟩))
        exact Member.leaves (inside item.name (by simp)) (inside item.type (by simp))
      have inner := Leaves.flatMap items
      rw [← List.flatMap_map Member.undocumented Member.lines] at inner
      have closing : Leaves ["\x7d"] ["\x7d"] :=
        .code (Text.avoids_of_first_notMem (by decide)) .nil
      exact .code (avoids_header isName (by decide) (by decide)) (inner.append closing)
  | synonym name comment type =>
    have isName : Avoids (.char '/') (.char '*') name.toList := plain name List.mem_cons_self
    have isType : Avoids (.char '/') (.char '*') type.toList :=
      plain type (List.mem_cons_of_mem name List.mem_cons_self)
    have line :
        Avoids (.char '/') (.char '*') ("export type " ++ name ++ " = " ++ type).toList := by
      rw [Text.toList_append]
      refine (avoids_header isName (by decide) (by decide)).append isType fun ends => ?_
      rw [Text.toList_append, List.getLast?_append_of_ne_nil _ (by decide)] at ends
      exact absurd ends (by decide)
    exact .code line .nil

/-- A declaration leaves its lines of code. Its own comment stands before these, those of its
members among them. -/
theorem leaves
    (plain : ∀ text ∈ declaration.codeTexts, Avoids (.char '/') (.char '*') text.toList) :
    Leaves declaration.lines declaration.undocumented.lines := by
  have bare : declaration.undocumented.lines = declaration.undocumented.bodyLines := by
    cases declaration with
    | interface name comment members => rfl
    | synonym name comment type => rfl
  rw [bare]
  exact Leaves.comment.append (leaves_bodyLines plain)

end Declaration

namespace OutputUnit

/-- Declarations with empty lines before them leave their lines of code. -/
theorem leaves_separatedLines {declarations : List (Declaration Text)}
    (plain : ∀ declaration ∈ declarations, ∀ text ∈ declaration.codeTexts,
      Avoids (.char '/') (.char '*') text.toList) :
    Leaves (separatedLines declarations)
      (separatedLines (declarations.map Declaration.undocumented)) := by
  rw [separatedLines, separatedLines, List.flatMap_map]
  exact .flatMap fun declaration there =>
    .code List.IsChain.nil (Declaration.leaves (plain declaration there))

/-- A unit leaves the lines that it has without its comments. Imports are all code, and so are the
empty lines; declarations leave their own lines, with the same empty lines before them. -/
theorem leaves_lines {unit : OutputUnit Text}
    (plain : ∀ text ∈ unit.codeTexts, Avoids (.char '/') (.char '*') text.toList) :
    Leaves unit.lines unit.undocumented.lines := by
  obtain ⟨home, filePath, imports, declarations⟩ := unit
  have imported : Leaves (imports.map ImportStatement.line) (imports.map ImportStatement.line) := by
    have each : ∀ statement ∈ imports, Leaves [statement.line] [statement.line] := by
      intro statement there
      have inside : ∀ text ∈ statement.specifier :: statement.names,
          Avoids (.char '/') (.char '*') text.toList :=
        fun text isText => plain text
          (List.mem_append_left _ (List.mem_flatMap.2 ⟨statement, there, isText⟩))
      refine .code (ImportStatement.avoids_line (inside _ List.mem_cons_self) ?_) .nil
      exact fun name isName => inside name (List.mem_cons_of_mem _ isName)
    have lines := Leaves.flatMap each
    rwa [← List.map_eq_flatMap] at lines
  have declared : ∀ declaration ∈ declarations, ∀ text ∈ declaration.codeTexts,
      Avoids (.char '/') (.char '*') text.toList := fun declaration there text isText =>
    plain text (List.mem_append_right _ (List.mem_flatMap.2 ⟨declaration, there, isText⟩))
  refine imported.append ?_
  cases imports with
  | cons statement others =>
    cases declarations with
    | nil => exact .nil
    | cons first others => exact leaves_separatedLines declared
  | nil =>
    cases declarations with
    | nil => exact .nil
    | cons first others =>
      exact (Declaration.leaves (declared first List.mem_cons_self)).append
        (leaves_separatedLines fun declaration there =>
          declared declaration (List.mem_cons_of_mem first there))

end OutputUnit

/-- Taking the comments out of the source of a unit gives the source of the unit without
documentation, so units that differ in their documentation alone have the same code. All of this is
about any descriptions: only what is written as code must not hold the beginning of a comment.

Proof: a line of code has no beginning of a comment, since none of its texts has one and nothing
around them makes one. The lines of a comment are left out as a whole, because the only mark that
ends it is its own. So reading goes through the lines of the unit and keeps those of the unit
without documentation. The second part follows because such units have the same texts of code. -/
theorem eraseBlocks_source (unit : OutputUnit Text)
    (plain : ∀ text ∈ unit.codeTexts, ¬ ("/*" : Text).toList <:+: text.toList) :
    Comment.eraseBlocks unit.source = unit.undocumented.source ∧
      ∀ other : OutputUnit Text, other.undocumented = unit.undocumented →
        Comment.eraseBlocks other.source = Comment.eraseBlocks unit.source := by
  have erased (unit : OutputUnit Text)
      (plain : ∀ text ∈ unit.codeTexts, ¬ ("/*" : Text).toList <:+: text.toList) :
      Comment.eraseBlocks unit.source = unit.undocumented.source := by
    have leaves : Leaves unit.lines unit.undocumented.lines :=
      OutputUnit.leaves_lines fun text there => Text.avoids_iff.2 (plain text there)
    have remaining := leaves []
    rw [List.append_nil, Comment.erase, List.append_nil] at remaining
    rw [Comment.eraseBlocks, OutputUnit.toList_source, remaining, ← OutputUnit.toList_source,
      Text.ofList_toList]
  refine ⟨erased unit plain, fun other same => ?_⟩
  have texts : other.codeTexts = unit.codeTexts := by
    rw [← OutputUnit.codeTexts_undocumented, same, OutputUnit.codeTexts_undocumented]
  rw [erased unit plain, erased other (texts ▸ plain), same]

/-- A unit whose descriptions try to leave their comments: with the mark of the end, with one that
breaking it up could make, and with one that a line break of another kind cuts in two. -/
def unrulyUnit : OutputUnit Text where
  home := ""
  filePath := "index.ts"
  imports := [⟨"./a", ["T"]⟩]
  declarations := [
    .interface "U" ["*/ x: y", "**//"] [⟨"p", "T", ["*\u2028/", ""], true, false⟩],
    .synonym "V" ["/** */"] "string"]

/-- Nothing of the descriptions of that unit stays behind, although they hold marks that begin and
that end a comment. -/
theorem eraseBlocks_source_of_unruly :
    (∀ text ∈ unrulyUnit.codeTexts, ¬ ("/*" : Text).toList <:+: text.toList) ∧
      Comment.eraseBlocks unrulyUnit.source =
        "import \x7bT\x7d from \"./a\"\n\nexport interface U \x7b\n  p?: T\n\x7d\n\n" ++
          "export type V = string\n" := by
  have plain : ∀ text ∈ unrulyUnit.codeTexts, ¬ ("/*" : Text).toList <:+: text.toList := by
    decide +kernel
  exact ⟨plain, (eraseBlocks_source unrulyUnit plain).1.trans (by rfl)⟩

end OpenApiTypes
