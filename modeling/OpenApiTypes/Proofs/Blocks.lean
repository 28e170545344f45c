import OpenApiTypes.Proofs.Delimited
import OpenApiTypes.Proofs.Marks

/-!
# What a comment block says

The lines inside a block hold no mark of its end, so the first line that is such a mark is the last
line of the block, and the block is determined wherever it begins. The indentation of a block stands
before each of its lines and changes nothing else, so blocks that are the same at one indentation
are the same at every other.
-/
namespace OpenApiTypes

namespace Text

/-- No line of a text has a character that ends a line. The cases are those of the recursion that
cuts a text into lines. -/
theorem not_isLineBreak_of_mem_lines {text line : List CodePoint} {character : CodePoint}
    (isLine : line ∈ lines text) (there : character ∈ line) : isLineBreak character = false := by
  fun_induction lines text generalizing line with
  | case1 => cases isLine
  | case2 rest ih =>
    rcases List.mem_cons.1 isLine with rfl | later
    · cases there
    · exact ih later there
  | case3 first rest pair ends ih =>
    rcases List.mem_cons.1 isLine with rfl | later
    · cases there
    · exact ih later there
  | case4 first rest pair inside none ih =>
    rw [List.mem_singleton.1 isLine] at there
    rw [List.mem_singleton.1 there]
    exact Bool.eq_false_iff.2 inside
  | case5 first rest pair inside line more some ih =>
    rcases List.mem_cons.1 isLine with rfl | later
    · rcases List.mem_cons.1 there with rfl | behind
      · exact Bool.eq_false_iff.2 inside
      · exact ih (some ▸ List.mem_cons_self) behind
    · exact ih (some ▸ List.mem_cons_of_mem _ later) there

/-- What stands before a text that is not blank stays when the blanks at the end go. So dropping
blanks never reaches back over something visible. -/
theorem trimEnd_append {text rest : List CodePoint}
    (visible : ∃ character ∈ rest, isBlank character = false) :
    trimEnd (text ++ rest) = text ++ trimEnd rest := by
  obtain ⟨character, there, notBlank⟩ := visible
  have remains : (rest.reverse.dropWhile isBlank).isEmpty = false := by
    rw [List.isEmpty_eq_false_iff]
    intro nothing
    have blank := List.dropWhile_eq_nil_iff.1 nothing character (List.mem_reverse.2 there)
    exact Bool.false_ne_true (notBlank.symm.trans blank)
  rw [trimEnd, List.reverse_append, List.dropWhile_append, remains, if_neg Bool.false_ne_true,
    List.reverse_append, List.reverse_reverse, trimEnd]

end Text

namespace Comment

open Text (Avoids)

variable {indent : Nat} {paragraphs others : List Text}

/-- The line that begins a block, with nothing in it but the mark. -/
def opening (indent : Nat) : Text :=
  Text.ofList (List.replicate indent (CodePoint.char ' ') ++ ("/**" : Text).toList)

/-- The line that ends a block. Its star stands below that of the opening mark. -/
def closing (indent : Nat) : Text :=
  Text.ofList (List.replicate indent (CodePoint.char ' ') ++ (" */" : Text).toList)

/-- A line inside a comment is indented as a whole: the blanks in front are not part of what is
trimmed at its end. -/
theorem commentLine_indent {line : List CodePoint} :
    commentLine indent line = List.replicate indent (.char ' ') ++ commentLine 0 line :=
  Text.trimEnd_append ⟨.char '*', by simp, by decide⟩

/-- No line of a paragraph has a character that ends a line. They are what lies between such
characters, and putting backslashes in brings none. -/
theorem not_isLineBreak_of_mem_paragraphLines {paragraph line : List CodePoint}
    {character : CodePoint} (isLine : line ∈ paragraphLines paragraph) (there : character ∈ line) :
    Text.isLineBreak character = false := by
  unfold paragraphLines at isLine
  split at isLine
  · rw [List.mem_singleton.1 isLine] at there
    cases there
  · exact Text.not_isLineBreak_of_mem_lines isLine there

/-- The lines of a block between its first one and its last one. Each begins with a star, and none
of them holds the mark that ends the comment. -/
def innerLines (indent : Nat) (paragraphs : List Text) : List Text :=
  paragraphs.flatMap fun paragraph =>
    (paragraphLines paragraph.toList).map fun line => Text.ofList (commentLine indent line)

/-- A block is its opening line, the lines inside and its closing line. -/
theorem blockLines_eq (indent : Nat) (paragraphs : List Text) :
    blockLines indent paragraphs =
      opening indent :: (innerLines indent paragraphs ++ [closing indent]) := by
  simp [blockLines, innerLines, opening, closing, List.map_flatMap, Function.comp_def]

/-- Each inner line of a block is one of a paragraph, behind the margin of the comment. -/
theorem exists_of_mem_innerLines {line : Text} (there : line ∈ innerLines indent paragraphs) :
    ∃ paragraph ∈ paragraphs, ∃ cut ∈ paragraphLines paragraph.toList,
      line = Text.ofList (commentLine indent cut) := by
  obtain ⟨paragraph, given, inParagraph⟩ := List.mem_flatMap.1 there
  obtain ⟨cut, isCut, rfl⟩ := List.mem_map.1 inParagraph
  exact ⟨paragraph, given, cut, isCut, rfl⟩

/-- In no inner line of a block a mark ends a comment: the marks of its paragraph are broken up, and
the margin in front makes no new one. -/
theorem avoids_of_mem_innerLines {line : Text} (there : line ∈ innerLines indent paragraphs) :
    Avoids (.char '*') (.char '/') line.toList := by
  obtain ⟨_, _, cut, isCut, rfl⟩ := exists_of_mem_innerLines there
  rw [Text.toList_ofList]
  exact avoids_commentLine (avoids_paragraphLine isCut)

/-- No line of a block has a character that ends a line. The first and the last are fixed texts; the
others come from the paragraphs. -/
theorem not_isLineBreak_of_mem_blockLines {line : Text} {character : CodePoint}
    (isLine : line ∈ blockLines indent paragraphs) (there : character ∈ line.toList) :
    Text.isLineBreak character = false := by
  have marginal (mark : List CodePoint) (plain : mark.any Text.isLineBreak = false)
      (there : character ∈ List.replicate indent (.char ' ') ++ mark) :
      Text.isLineBreak character = false := by
    rcases List.mem_append.1 there with margin | inMark
    · rw [List.eq_of_mem_replicate margin]
      decide
    · exact Bool.eq_false_iff.2 (List.any_eq_false.1 plain character inMark)
  rw [blockLines_eq, List.mem_cons, List.mem_append, List.mem_singleton] at isLine
  rcases isLine with rfl | isInner | rfl
  · rw [opening, Text.toList_ofList] at there
    exact marginal _ (by decide) there
  · obtain ⟨_, _, cut, isCut, rfl⟩ := exists_of_mem_innerLines isInner
    rw [Text.toList_ofList] at there
    -- Dropping blanks at the end brings no character in.
    have plain : cut.any Text.isLineBreak = false := List.any_eq_false.2 fun _ inCut =>
      Bool.eq_false_iff.1 (not_isLineBreak_of_mem_paragraphLines isCut inCut)
    exact marginal (.char ' ' :: .char '*' :: .char ' ' :: cut) plain
      (Text.trimEnd_prefix.subset there)
  · rw [closing, Text.toList_ofList] at there
    exact marginal _ (by decide) there

/-- A line with more blanks at its front, as many as a block is indented. -/
def indented (indent : Nat) (line : Text) : Text :=
  Text.ofList (List.replicate indent (.char ' ') ++ line.toList)

/-- The lines of a block are those of the block without indentation, each of them indented. So the
indentation says nothing about the paragraphs. -/
theorem blockLines_indent (indent : Nat) (paragraphs : List Text) :
    blockLines indent paragraphs = (blockLines 0 paragraphs).map (indented indent) := by
  have line (cut : List CodePoint) : Text.ofList (commentLine indent cut) =
      indented indent (Text.ofList (commentLine 0 cut)) := by
    rw [indented, Text.toList_ofList, commentLine_indent]
  simp [blockLines, indented, List.map_flatMap, Function.comp_def, line]

/-- Blocks that are the same at one indentation are the same at every other. Both are the block
without indentation, indented, and indenting can be undone. -/
theorem blockLines_eq_of_eq {otherIndent : Nat}
    (same : blockLines indent paragraphs = blockLines indent others) :
    blockLines otherIndent paragraphs = blockLines otherIndent others := by
  have injective : Function.Injective (indented indent) := by
    intro line otherLine equal
    have texts := congrArg Text.toList equal
    rw [indented, indented, Text.toList_ofList, Text.toList_ofList] at texts
    exact Text.toList_inj.1 (List.append_cancel_left texts)
  rw [blockLines_indent indent paragraphs, blockLines_indent indent others] at same
  rw [blockLines_indent otherIndent paragraphs, blockLines_indent otherIndent others,
    List.map_injective_iff.2 injective same]

/-- A block at the front of lines is determined, together with what follows it: it goes up to the
first line that closes a block, and no inner line looks like that. -/
theorem blockLines_append_inj {rest otherRest : List Text}
    (same : blockLines indent paragraphs ++ rest = blockLines indent others ++ otherRest) :
    blockLines indent paragraphs = blockLines indent others ∧ rest = otherRest := by
  have unended (paragraphs : List Text) : closing indent ∉ innerLines indent paragraphs := by
    intro there
    refine Text.avoids_iff.1 (avoids_of_mem_innerLines there)
      ⟨List.replicate indent (.char ' ') ++ [.char ' '], [], ?_⟩
    simp [closing]
  rw [blockLines_eq, blockLines_eq] at same ⊢
  simp only [List.cons_append, List.append_assoc, List.nil_append, List.cons.injEq, true_and]
    at same
  obtain ⟨inner, rfl⟩ := append_separator_inj (unended paragraphs) (unended others) same
  rw [inner]
  exact ⟨rfl, rfl⟩

/-- Two comments say the same: both say nothing, or their blocks have the same text, wherever they
stand. -/
def Alike (paragraphs others : List Text) : Prop :=
  paragraphs = [] ∧ others = [] ∨
    paragraphs ≠ [] ∧ others ≠ [] ∧ ∀ indent, block indent paragraphs = block indent others

/-- A comment at the front of lines, or the lack of one, is determined when what follows it does not
begin a block. Where one side has a comment and the other has none, the first line would have to be
an opening on both. -/
theorem alike_of_lines {rest otherRest : List Text} (noBlock : rest.head? ≠ some (opening indent))
    (noOtherBlock : otherRest.head? ≠ some (opening indent))
    (same : (if paragraphs.isEmpty then [] else blockLines indent paragraphs) ++ rest =
      (if others.isEmpty then [] else blockLines indent others) ++ otherRest) :
    Alike paragraphs others ∧ rest = otherRest := by
  have begins (paragraphs rest : List Text) :
      (blockLines indent paragraphs ++ rest).head? = some (opening indent) := rfl
  cases paragraphs with
  | nil =>
    cases others with
    | nil => exact ⟨.inl ⟨rfl, rfl⟩, same⟩
    | cons other later => exact absurd ((congrArg _ same).trans (begins _ _)) noBlock
  | cons paragraph more =>
    cases others with
    | nil => exact absurd ((congrArg _ same.symm).trans (begins _ _)) noOtherBlock
    | cons other later =>
      obtain ⟨blocks, after⟩ := blockLines_append_inj same
      refine ⟨.inr ⟨List.cons_ne_nil _ _, List.cons_ne_nil _ _, fun each => ?_⟩, after⟩
      rw [block, block, blockLines_eq_of_eq blocks]

end Comment

end OpenApiTypes
