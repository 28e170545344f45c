import Mathlib.Algebra.GroupWithZero.Nat
import OpenApiTypes.Proofs.Blocks
import OpenApiTypes.Proofs.Delimited

/-!
# The text of a comment block

A block is closed by its last two characters and nowhere before, whatever its paragraphs say. Cut at
its line feeds it has one line for its start, one for each line of its paragraphs, and one for its
end. A paragraph without lines counts as one line, and to break up a mark in a paragraph changes the
number of its lines as little as to drop the blanks at their ends. Nothing else in the text ends a
line.
-/
namespace OpenApiTypes

namespace Text

variable {first last : CodePoint} {front rest text : List CodePoint}

/-- A text has one line more than what follows its first character if that character ends a line.
A carriage return before a line feed does not end another one, and any other character belongs to
the next line, which is there from then on. -/
theorem length_lines_cons : (lines (first :: rest)).length =
    if isLineBreak first then
      if first = .char '\r' ∧ rest.head? = some (.char '\n') then (lines rest).length
      else (lines rest).length + 1
    else max 1 (lines rest).length := by
  generalize begins : first :: rest = text
  fun_cases lines text with
  | case1 => cases begins
  | case2 later =>
    obtain ⟨rfl, rfl⟩ := List.cons.inj begins
    rw [if_pos (by decide), if_pos ⟨rfl, rfl⟩, lines, if_pos (by decide)]
    simp
  | case3 _ _ apart ends =>
    obtain ⟨rfl, rfl⟩ := List.cons.inj begins
    have notBefore : ¬ (first = .char '\r' ∧ rest.head? = some (.char '\n')) := by
      rintro ⟨same, feed⟩
      obtain ⟨later, behind⟩ := List.head?_eq_some_iff.1 feed
      exact apart later same behind
    rw [if_pos ends, if_neg notBefore, List.length_cons]
  | case4 _ _ _ inside none =>
    obtain ⟨rfl, rfl⟩ := List.cons.inj begins
    rw [if_neg inside, none]
    rfl
  | case5 _ _ _ inside line more cut =>
    obtain ⟨rfl, rfl⟩ := List.cons.inj begins
    rw [if_neg inside, cut]
    simp

/-- A text without the blanks at its end goes as far as any character in it that is not blank. So
the margin of a line, which ends with a star, is never dropped. -/
theorem prefix_trimEnd (visible : isBlank last = false) :
    front ++ [last] <+: trimEnd (front ++ last :: rest) := by
  rw [trimEnd_append ⟨last, List.mem_cons_self, visible⟩, List.prefix_append_right_inj]
  have begins : trimEnd (last :: rest) <+: last :: rest := trimEnd_prefix
  cases remains : trimEnd (last :: rest) with
  | nil =>
    have blank := List.rdropWhile_eq_nil_iff.1 remains last List.mem_cons_self
    exact absurd (visible.symm.trans blank) Bool.false_ne_true
  | cons first later =>
    rw [remains, List.cons_prefix_cons] at begins
    rw [begins.1]
    exact ⟨later, rfl⟩

/-- A text without the blanks at its end does not end with a blank; it may be empty. -/
theorem not_isBlank_of_mem_getLast? (ends : last ∈ (trimEnd text).getLast?) :
    isBlank last = false := by
  obtain ⟨something, rfl⟩ := List.mem_getLast?_eq_getLast ends
  exact Bool.eq_false_iff.2 (List.rdropWhile_last_not isBlank text something)

/-- A pair that a text avoids occurs only at the end when it is put there, even if the text ends
with the first half of the pair: then the two halves overlap nowhere. -/
theorem Avoids.append_pair_iff {second : CodePoint} {before after : List CodePoint}
    (avoids : Avoids first second (front ++ [first])) :
    front ++ [first, second] = before ++ first :: second :: after ↔
      before = front ∧ after = [] := by
  constructor
  · intro found
    rcases List.eq_nil_or_concat' after with rfl | ⟨others, last, rfl⟩
    · exact ⟨List.append_cancel_right found.symm, rfl⟩
    · have regrouped : (front ++ [first]) ++ [second] =
          (before ++ [first, second] ++ others) ++ [last] := by simpa using found
      have inFront : front ++ [first] = before ++ [first, second] ++ others :=
        List.append_inj_left' regrouped rfl
      exact absurd ⟨before, others, inFront.symm⟩ (avoids_iff.1 avoids)
  · rintro ⟨rfl, rfl⟩
    rfl

end Text

namespace Comment

open Text (Avoids)

variable {indent : Nat} {paragraphs : List Text}

/-- To break up the marks in a text makes no lines and takes none away, since what comes in and what
goes are slashes and backslashes. The cases are those of the recursion that breaks them up. -/
theorem length_lines_disarm (text : List CodePoint) :
    (Text.lines (disarm text)).length = (Text.lines text).length := by
  fun_induction disarm text with
  | case1 rest ih =>
    have star : Text.isLineBreak (.char '*') = false := by decide
    have backslash : Text.isLineBreak (.char '\\') = false := by decide
    have slash : Text.isLineBreak (.char '/') = false := by decide
    simp only [Text.length_lines_cons, star, backslash, slash, ih, Bool.false_eq_true, if_false]
    omega
  | case2 first rest apart ih =>
    rw [Text.length_lines_cons, Text.length_lines_cons, ih, head?_disarm]
  | case3 => rfl

/-- A paragraph has the lines of its text, or one if there are none, so an empty paragraph is one
empty line in its block. -/
theorem length_paragraphLines (paragraph : List CodePoint) :
    (paragraphLines paragraph).length = max 1 (Text.lines paragraph).length := by
  rw [← length_lines_disarm, paragraphLines]
  cases Text.lines (disarm paragraph) with
  | nil => rfl
  | cons line more => simp

/-- A block has as many inner lines as its paragraphs have together. A paragraph without a line of
its own counts as one. -/
theorem length_innerLines (indent : Nat) (paragraphs : List Text) :
    (innerLines indent paragraphs).length =
      (paragraphs.map fun paragraph => max 1 (Text.lines paragraph.toList).length).sum := by
  simp [innerLines, List.length_flatMap, length_paragraphLines]

/-- An inner line shows its star, and it does not end with a blank. The star is never dropped with
the blanks at the end, because it is not blank itself. -/
theorem commentLine_margin (indent : Nat) (line : List CodePoint) :
    List.replicate indent (CodePoint.char ' ') ++ (" *" : Text).toList <+: commentLine indent line ∧
      ∀ last ∈ (commentLine indent line).getLast?, Text.isBlank last = false := by
  refine ⟨?_, fun _ => Text.not_isBlank_of_mem_getLast?⟩
  have shown : (List.replicate indent (.char ' ') ++ [.char ' ']) ++ [.char '*'] <+:
      Text.trimEnd ((List.replicate indent (.char ' ') ++ [.char ' ']) ++
        .char '*' :: .char ' ' :: line) :=
    Text.prefix_trimEnd (by decide)
  simpa [commentLine] using shown

/-- The text of a block is that of its lines with line feeds between them and none at the end. -/
theorem toList_block (indent : Nat) (paragraphs : List Text) :
    (block indent paragraphs).toList =
      [.char '\n'].intercalate ((blockLines indent paragraphs).map Text.toList) :=
  Text.toList_intercalate ..

/-- The lines of a block are those that it has between its line feeds: no line of it has a line feed
inside. -/
theorem splitOn_block (indent : Nat) (paragraphs : List Text) :
    (block indent paragraphs).toList.splitOn (.char '\n') =
      (blockLines indent paragraphs).map Text.toList := by
  rw [toList_block]
  refine List.splitOn_intercalate (CodePoint.char '\n') ?_ (by simp [blockLines_eq])
  rintro _ there lineFeed
  obtain ⟨line, isLine, rfl⟩ := List.mem_map.1 there
  exact absurd (not_isLineBreak_of_mem_blockLines isLine lineFeed) (by decide)

/-- What stands before the end of a block has no mark that ends a comment, even with the star of the
end behind it. The start of the block and its inner lines avoid the mark one by one, and since it is
never cut in two by a line feed, so do they all together. -/
theorem exists_unended (indent : Nat) (paragraphs : List Text) :
    ∃ front, (block indent paragraphs).toList = front ++ [.char '*', .char '/'] ∧
      Avoids (.char '*') (.char '/') (front ++ [.char '*']) := by
  let pad := List.replicate indent (CodePoint.char ' ')
  let lines := (opening indent :: innerLines indent paragraphs).map Text.toList
  refine ⟨[.char '\n'].intercalate lines ++ .char '\n' :: (pad ++ [.char ' ']), ?_, ?_⟩
  · simp [toList_block, blockLines_eq, lines, intercalate_cons, closing, pad]
  have plainPad (mark : CodePoint) (visible : mark ≠ .char ' ') : mark ∉ pad := fun there =>
    visible (List.eq_of_mem_replicate there)
  have inLines : Avoids (.char '*') (.char '/') ([.char '\n'].intercalate lines) := by
    refine Text.avoids_intercalate (by decide) fun segment isLine => ?_
    obtain ⟨line, there, rfl⟩ := List.mem_map.1 isLine
    rcases List.mem_cons.1 there with rfl | isInner
    · rw [opening, Text.toList_ofList]
      refine Avoids.plain_append ⟨plainPad _ (by decide), plainPad _ (by decide)⟩ ?_
      exact List.isChain_cons_cons.2 ⟨by decide, List.isChain_cons_cons.2 ⟨by decide,
        List.isChain_singleton _⟩⟩
    · exact avoids_of_mem_innerLines isInner
  rw [List.append_assoc]
  refine inLines.append (Text.avoids_of_second_notMem ?_) fun _ => by simp
  simp [plainPad]

/-- A block ends with the only mark in it that ends a comment, and has one line for its start, one
for each line of its paragraphs and one for its end. Every inner line shows its star and does not
end with a blank, and no line holds a character that would end a line.

Proof: the marks in a paragraph are broken up before it is cut into lines, so no inner line holds
one, and `exists_unended` puts the lines together. The count of lines is that of the paragraphs,
since to break up marks and to drop blanks leaves it alone. -/
theorem block_closes_at_end (indent : Nat) (paragraphs : List Text) :
    let pad := List.replicate indent (CodePoint.char ' ')
    let text := (block indent paragraphs).toList
    (∃ front, ∀ before after, text = before ++ .char '*' :: .char '/' :: after ↔
        before = front ∧ after = []) ∧
      (text.splitOn (.char '\n')).length =
        (paragraphs.map fun paragraph => max 1 (Text.lines paragraph.toList).length).sum + 2 ∧
      (∃ inner, text.splitOn (.char '\n') =
          (pad ++ ("/**" : Text).toList) :: (inner ++ [pad ++ (" */" : Text).toList]) ∧
        ∀ line ∈ inner, pad ++ (" *" : Text).toList <+: line ∧
          ∀ last ∈ line.getLast?, Text.isBlank last = false) ∧
      ∀ line ∈ text.splitOn (.char '\n'), ∀ character ∈ line,
        Text.isLineBreak character = false := by
  intro pad text
  have cut : text.splitOn (.char '\n') = (blockLines indent paragraphs).map Text.toList :=
    splitOn_block indent paragraphs
  refine ⟨?_, ?_, ⟨(innerLines indent paragraphs).map Text.toList, ?_, ?_⟩, ?_⟩
  · obtain ⟨front, whole, unended⟩ := exists_unended indent paragraphs
    refine ⟨front, fun before after => ?_⟩
    change (block indent paragraphs).toList = _ ↔ _
    rw [whole]
    exact unended.append_pair_iff
  · rw [cut, List.length_map, blockLines_eq, List.length_cons, List.length_append,
      length_innerLines, List.length_singleton]
  · rw [cut, blockLines_eq]
    simp [opening, closing, pad]
  · intro line there
    obtain ⟨_, isInner, rfl⟩ := List.mem_map.1 there
    obtain ⟨_, _, cut, _, rfl⟩ := exists_of_mem_innerLines isInner
    rw [Text.toList_ofList]
    exact commentLine_margin indent cut
  · intro line there
    rw [cut] at there
    obtain ⟨_, isLine, rfl⟩ := List.mem_map.1 there
    exact fun _ => not_isLineBreak_of_mem_blockLines isLine

end Comment

end OpenApiTypes
