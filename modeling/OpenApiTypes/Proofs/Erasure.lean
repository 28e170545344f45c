import OpenApiTypes.Proofs.Lines

/-!
# Comments can be taken out again

Descriptions are free text, and yet they end up in comments only. To see that, a reader takes out
every block from the mark that begins it to the first mark that ends it, knowing nothing of what was
written. As long as no name or type of a unit holds the beginning of a comment, what remains is the
unit as it is written without its documentation: the text of a description can neither end its own
block early nor be mistaken for another one.

Each line of code stays as it is, because no block begins in it, and each block goes as a whole,
because its only mark of the end is in its last line.
-/
namespace OpenApiTypes

namespace Comment

open Text (Avoids)

variable {text rest : List CodePoint}

/-- What stands behind the first mark that ends a comment. Without such a mark there is nothing, and
the comment is not closed. -/
def afterEnd? : List CodePoint → Option (List CodePoint)
  | .char '*' :: .char '/' :: rest => some rest
  | _ :: rest => afterEnd? rest
  | [] => none

/-- A text without the line break at its front, if one is there. -/
def dropBreak : List CodePoint → List CodePoint
  | .char '\n' :: rest => rest
  | text => text

/-- What stands behind a comment block at the front of a text, which may be indented, and behind the
line break after it. -/
def afterBlock? (text : List CodePoint) : Option (List CodePoint) :=
  match text.dropWhile (· == .char ' ') with
  | .char '/' :: .char '*' :: .char '*' :: rest => (afterEnd? rest).map dropBreak
  | _ => none

/-- To drop one line break at the front makes a text no longer. The text behind a comment is
therefore shorter than the comment with it. -/
theorem length_dropBreak : (dropBreak text).length ≤ text.length := by
  fun_cases dropBreak text
  · exact Nat.le_succ _
  · exact Nat.le_refl _

/-- Behind the first mark that ends a comment there is less text. The recursion on texts rests on
this. -/
theorem length_of_afterEnd? (found : afterEnd? text = some rest) :
    rest.length < text.length := by
  fun_induction afterEnd? text with
  | case1 later =>
    cases found
    simp only [List.length_cons]
    omega
  | case2 character later other ih =>
    have shorter := ih found
    simp only [List.length_cons]
    omega
  | case3 => cases found

/-- Behind a block there is less text, so a reader that takes out blocks comes to an end. -/
theorem length_of_afterBlock? (found : afterBlock? text = some rest) :
    rest.length < text.length := by
  have whole : (text.dropWhile (· == .char ' ')).length ≤ text.length :=
    (List.dropWhile_suffix _).length_le
  unfold afterBlock? at found
  split at found
  · rename_i later begins
    obtain ⟨behind, ended, rfl⟩ := Option.map_eq_some_iff.1 found
    have shorter := length_of_afterEnd? ended
    have shortest : (dropBreak behind).length ≤ behind.length := length_dropBreak
    rw [begins] at whole
    simp only [List.length_cons] at whole
    omega
  · cases found

/-- A text without its comment blocks, their indentation and the line breaks after them. -/
def erase : List CodePoint → List CodePoint
  | [] => []
  | first :: rest =>
    match _found : afterBlock? (first :: rest) with
    | some behind => erase behind
    | none => first :: erase rest
termination_by text => text.length
decreasing_by
  · exact length_of_afterBlock? _found
  · exact Nat.lt_succ_self _

/-- A text without its comment blocks, each with the line that it takes. -/
def eraseBlocks (text : Text) : Text := Text.ofList (erase text.toList)

/-- A block at the front of a text goes, together with the line break behind it. -/
theorem erase_of_afterBlock? (found : afterBlock? text = some rest) : erase text = erase rest := by
  cases text with
  | nil => cases found
  | cons first later =>
    rw [erase]
    split
    · rename_i behind same
      rw [found] at same
      rw [Option.some.inj same]
    · rename_i none
      rw [found] at none
      cases none

/-- A character with which no block begins stays, and the reader goes on behind it. -/
theorem erase_cons {first : CodePoint} (none : afterBlock? (first :: rest) = none) :
    erase (first :: rest) = first :: erase rest := by
  rw [erase]
  split
  · rename_i some
    rw [none] at some
    cases some
  · rfl

/-- No block begins in a line without the mark for that, at whatever character of the line a reader
looks for one. -/
theorem afterBlock?_line {line : List CodePoint} (code : Avoids (.char '/') (.char '*') line) :
    afterBlock? (line ++ .char '\n' :: rest) = none := by
  -- The line feed stops the indentation, so a block would have to begin inside the line.
  have margin : (line ++ .char '\n' :: rest).dropWhile (· == .char ' ') =
      line.dropWhile (· == .char ' ') ++ .char '\n' :: rest := by
    induction line with
    | nil => rfl
    | cons first later ih =>
      by_cases blank : first = .char ' '
      · simp [blank, ih (List.isChain_cons.1 code).2]
      · simp [blank]
  have inside : Avoids (.char '/') (.char '*') (line.dropWhile (· == .char ' ')) :=
    code.suffix (List.dropWhile_suffix _)
  unfold afterBlock?
  rw [margin]
  split
  · rename_i later begins
    exfalso
    cases remaining : line.dropWhile (· == .char ' ') with
    | nil =>
      rw [remaining] at begins
      cases (List.cons.inj begins).1
    | cons first further =>
      rw [remaining] at begins inside
      obtain ⟨rfl, behind⟩ := List.cons.inj begins
      cases further with
      | nil => cases (List.cons.inj behind).1
      | cons second others =>
        obtain ⟨rfl, _⟩ := List.cons.inj behind
        exact (List.isChain_cons_cons.1 inside).1 ⟨rfl, rfl⟩
  · rfl

/-- A line without the mark that begins a comment stays. The induction is on the line, character by
character. -/
theorem erase_line {line : List CodePoint} (code : Avoids (.char '/') (.char '*') line) :
    erase (line ++ .char '\n' :: rest) = line ++ .char '\n' :: erase rest := by
  induction line with
  | nil => exact erase_cons (afterBlock?_line List.IsChain.nil)
  | cons first later ih =>
    have stays : afterBlock? (first :: (later ++ .char '\n' :: rest)) = none :=
      afterBlock?_line code
    rw [List.cons_append, erase_cons stays, ih (List.isChain_cons.1 code).2, List.cons_append]

/-- The first mark that ends a comment is the one behind a text without such a mark, also where that
text ends with a star. -/
theorem afterEnd?_append {inner : List CodePoint} (unended : Avoids (.char '*') (.char '/') inner) :
    afterEnd? (inner ++ .char '*' :: .char '/' :: rest) = some rest := by
  induction inner with
  | nil => rfl
  | cons first later ih =>
    have behind : afterEnd? (later ++ .char '*' :: .char '/' :: rest) = some rest :=
      ih (List.isChain_cons.1 unended).2
    rw [List.cons_append, afterEnd?, behind]
    rintro further rfl same
    cases later with
    | nil => cases same
    | cons second others =>
      obtain ⟨rfl, _⟩ := List.cons.inj same
      exact (List.isChain_cons_cons.1 unended).1 ⟨rfl, rfl⟩

/-- Lines avoid what each of them avoids, since a line feed is between them. -/
theorem avoids_joined {lines : List Text}
    (avoid : ∀ line ∈ lines, Avoids (.char '*') (.char '/') line.toList) :
    Avoids (.char '*') (.char '/') (joined lines) := by
  induction lines with
  | nil => exact List.IsChain.nil
  | cons line others ih =>
    have later := ih fun other there => avoid other (List.mem_cons_of_mem line there)
    rw [joined, List.flatMap_cons]
    refine ((avoid line List.mem_cons_self).append_plain (by decide)).append later fun ends => ?_
    rw [List.getLast?_concat] at ends
    exact absurd ends (by decide)

/-- Lines leave other lines behind when their comments are taken out, whatever follows. -/
def Leaves (lines bare : List Text) : Prop :=
  ∀ rest, erase (joined lines ++ rest) = joined bare ++ erase rest

namespace Leaves

variable {lines bare more moreBare : List Text}

/-- Of no lines nothing is left, and nothing has to be. This is where a list of lines ends. -/
theorem nil : Leaves [] [] := fun _ => rfl

/-- What is left of lines one behind the other is left of each part by itself: no block reaches over
from one part to the next, since each part is taken out whatever text follows it. -/
theorem append (first : Leaves lines bare) (second : Leaves more moreBare) :
    Leaves (lines ++ more) (bare ++ moreBare) := by
  intro rest
  rw [joined_append, joined_append, List.append_assoc, first, second, List.append_assoc]

/-- A line of code stays, as it holds no mark that begins a comment. The lines behind it are looked
at from a line's beginning again. -/
theorem code {line : Text} (code : Avoids (.char '/') (.char '*') line.toList)
    (others : Leaves lines bare) : Leaves (line :: lines) (line :: bare) := by
  have single : Leaves [line] [line] := fun rest => by simpa [joined] using erase_line code
  exact single.append others

/-- Items are left one by one, so what is left of all of them is what is left of each. -/
theorem flatMap {α : Type} {write writeBare : α → List Text} {items : List α}
    (leaves : ∀ item ∈ items, Leaves (write item) (writeBare item)) :
    Leaves (items.flatMap write) (items.flatMap writeBare) := by
  induction items with
  | nil => exact nil
  | cons item others ih =>
    rw [List.flatMap_cons, List.flatMap_cons]
    exact (leaves item List.mem_cons_self).append
      (ih fun other there => leaves other (List.mem_cons_of_mem item there))

/-- A comment block goes as a whole, whatever its paragraphs say. Its first line begins a comment,
and the first mark that ends one is in its last line. -/
theorem block {indent : Nat} {paragraphs : List Text} :
    Leaves (blockLines indent paragraphs) [] := by
  intro rest
  let pad := List.replicate indent (CodePoint.char ' ')
  let inner := innerLines indent paragraphs
  let body := CodePoint.char '\n' :: joined inner ++ (pad ++ [.char ' '])
  have whole : joined (blockLines indent paragraphs) ++ rest =
      pad ++ .char '/' :: .char '*' :: .char '*' ::
        (body ++ .char '*' :: .char '/' :: .char '\n' :: rest) := by
    simp [blockLines_eq, joined, opening, closing, body, inner, pad]
  have unended : Avoids (.char '*') (.char '/') body := by
    have margin : .char '/' ∉ pad ++ [.char ' '] := by
      rw [List.mem_append, not_or]
      exact ⟨fun there => absurd (List.eq_of_mem_replicate there) (by decide), by decide⟩
    have lines : Avoids (.char '*') (.char '/') (joined inner) :=
      avoids_joined fun _ => avoids_of_mem_innerLines
    have front : Avoids (.char '*') (.char '/') ([.char '\n'] ++ joined inner) :=
      lines.plain_append (by decide)
    exact front.append (Text.avoids_of_second_notMem margin) fun _ begins =>
      margin (List.mem_of_mem_head? begins)
  have found : afterBlock? (joined (blockLines indent paragraphs) ++ rest) = some rest := by
    have blanks : ∀ blank ∈ pad, (blank == .char ' ') = true := fun blank there =>
      beq_iff_eq.2 (List.eq_of_mem_replicate there)
    have mark : (CodePoint.char '/' == .char ' ') = false := rfl
    rw [whole, afterBlock?, List.dropWhile_append_of_pos blanks, List.dropWhile_cons, mark]
    simp [afterEnd?_append unended, dropBreak]
  exact erase_of_afterBlock? found

end Leaves

end Comment

end OpenApiTypes
