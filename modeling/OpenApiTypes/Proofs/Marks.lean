import Mathlib.Data.List.Chain
import Mathlib.Data.List.DropRight
import OpenApiTypes.Proofs.Escapes
import OpenApiTypes.Source

/-!
# Where the marks of comments can stand

A comment begins and ends with a mark of several characters, and two of them in a row decide whether
a text holds one. Putting texts together makes no such pair unless one text ends with its first
character and the next one begins with its second. Escapes bring none in, since they leave the
characters of the marks as they are and stand between none of them; and a paragraph has lost the
mark that ends a comment before it is cut into lines.
-/
namespace OpenApiTypes

namespace Text

variable {first second character : CodePoint} {text rest : List CodePoint}

/-- Nowhere in a text does one character stand directly before another. Each of the two may occur by
itself. -/
def Avoids (first second : CodePoint) (text : List CodePoint) : Prop :=
  text.IsChain fun left right => ¬ (left = first ∧ right = second)

/-- A text avoids a pair exactly when it does not hold the pair. The first form is the one to prove,
the second the one to state. -/
theorem avoids_iff : Avoids first second text ↔ ¬ [first, second] <:+: text := by
  rw [Avoids, List.isChain_iff_forall_rel_of_append_cons_cons]
  constructor
  · rintro avoids ⟨before, after, rfl⟩
    have whole : before ++ [first, second] ++ after = before ++ first :: second :: after := by simp
    exact avoids whole ⟨rfl, rfl⟩
  · rintro none left right before after rfl ⟨rfl, rfl⟩
    exact none ⟨before, after, by simp⟩

/-- A text without the first character of a pair avoids it, whatever else it has. -/
theorem avoids_of_first_notMem (absent : first ∉ text) : Avoids first second text := by
  rw [avoids_iff]
  exact fun held => absent (held.subset List.mem_cons_self)

/-- A text without the second character of a pair avoids it. Most texts that are put around names
are of this kind. -/
theorem avoids_of_second_notMem (absent : second ∉ text) : Avoids first second text := by
  rw [avoids_iff]
  exact fun held => absent (held.subset (List.mem_cons_of_mem _ List.mem_cons_self))

/-- What is put together avoids a pair when the parts do and do not make it between them. Only the
last character of the one and the first of the other can do that. -/
theorem Avoids.append (left : Avoids first second text) (right : Avoids first second rest)
    (apart : text.getLast? = some first → rest.head? ≠ some second) :
    Avoids first second (text ++ rest) := by
  refine List.isChain_append.2 ⟨left, right, ?_⟩
  rintro last isLast next isNext ⟨rfl, rfl⟩
  exact apart isLast isNext

/-- A text that holds neither character of a pair can stand behind another. -/
theorem Avoids.append_plain (left : Avoids first second text)
    (plain : first ∉ rest ∧ second ∉ rest) : Avoids first second (text ++ rest) :=
  left.append (avoids_of_first_notMem plain.1) fun _ begins =>
    plain.2 (List.mem_of_mem_head? begins)

/-- A text that holds neither character of a pair can stand before another. -/
theorem Avoids.plain_append (plain : first ∉ text ∧ second ∉ text)
    (right : Avoids first second rest) : Avoids first second (text ++ rest) :=
  (avoids_of_first_notMem plain.1).append right fun ends =>
    absurd (List.mem_of_getLast? ends) plain.1

/-- Texts with something harmless between them avoid a pair if each of them does. The text between
has to be something, or it would not keep them apart. -/
theorem avoids_intercalate {between : List CodePoint} {segments : List (List CodePoint)}
    (harmless : first ∉ between ∧ second ∉ between ∧ between ≠ [])
    (avoid : ∀ segment ∈ segments, Avoids first second segment) :
    Avoids first second (between.intercalate segments) := by
  obtain ⟨noFirst, noSecond, something⟩ := harmless
  induction segments with
  | nil => exact List.IsChain.nil
  | cons segment others ih =>
    have here : Avoids first second segment := avoid segment List.mem_cons_self
    cases others with
    | nil => simpa using here
    | cons next further =>
      rw [List.intercalate_cons_cons]
      have later := ih fun other there => avoid other (List.mem_cons_of_mem segment there)
      refine (here.append_plain ⟨noFirst, noSecond⟩).append later fun ends => ?_
      rw [List.getLast?_append_of_ne_nil _ something] at ends
      exact absurd (List.mem_of_getLast? ends) noFirst

/-- Writing a text character by character makes no pair when the characters of the pair are written
as themselves, no other character brings one of them in, and none vanishes. -/
theorem Avoids.flatMap {write : CodePoint → List CodePoint} (avoids : Avoids first second text)
    (themselves : ∀ character, ∀ written ∈ write character, written = first ∨ written = second →
      write character = [character] ∧ written = character)
    (something : ∀ character, write character ≠ []) :
    Avoids first second (text.flatMap write) := by
  induction text with
  | nil => exact List.IsChain.nil
  | cons character later ih =>
    obtain ⟨apart, avoidsLater⟩ := List.isChain_cons.1 avoids
    have here : Avoids first second (write character) := by
      by_cases brought : first ∈ write character
      · rw [(themselves character first brought (.inl rfl)).1]
        exact List.isChain_singleton character
      · exact avoids_of_first_notMem brought
    rw [List.flatMap_cons]
    refine here.append (ih avoidsLater) fun ends begins => ?_
    have isFirst : first = character :=
      (themselves character first (List.mem_of_getLast? ends) (.inl rfl)).2
    cases later with
    | nil => cases begins
    | cons next further =>
      rw [List.flatMap_cons, List.head?_append_of_ne_nil _ (something next)] at begins
      have isSecond : second = next :=
        (themselves next second (List.mem_of_mem_head? begins) (.inr rfl)).2
      exact apart next rfl ⟨isFirst.symm, isSecond.symm⟩

/-- No escape of a code unit has a slash or a star in it. It has a backslash, a letter and
digits. -/
theorem not_mark_of_mem_unitEscape {letter : Char} {unit : Nat}
    (there : letter ∈ unitEscape unit) : ¬ (letter = '/' ∨ letter = '*') := by
  have digits : ∀ digit < 16, ¬ (hexDigit digit = '/' ∨ hexDigit digit = '*') := by decide
  rcases mem_unitEscape there with rfl | rfl | ⟨value, small, rfl⟩
  · decide
  · decide
  · exact digits value small

/-- Inside a literal slashes and stars stand for themselves, and nothing else is written with
them. -/
theorem mark_of_mem_escapedPoint {point : CodePoint} {letter : Char}
    (there : letter ∈ escapedPoint point) (mark : letter = '/' ∨ letter = '*') :
    escapedPoint point = [letter] ∧ point = .char letter := by
  have letters : ∀ entry ∈ shortEscapes, ¬ (entry.2 = '/' ∨ entry.2 = '*') := by decide
  cases point with
  | char character =>
    rw [escapedPoint] at there ⊢
    have way : Escape character (escapedChar character) := escape_escapedChar
    generalize escapedChar character = text at there way
    cases way with
    | short other listed =>
      rcases List.mem_pair.1 there with rfl | rfl
      · exact absurd mark (by decide)
      · exact absurd mark (letters _ listed)
    | itself quote backslash printable =>
      obtain rfl := List.mem_singleton.1 there
      exact ⟨rfl, rfl⟩
    | units =>
      obtain ⟨unit, _, inside⟩ := List.mem_flatMap.1 there
      exact absurd mark (not_mark_of_mem_unitEscape inside)
  | surrogate half => exact absurd mark (not_mark_of_mem_unitEscape there)

/-- A literal holds the start of a comment only if its text does. Escapes keep slashes and stars as
they are and add none. -/
theorem avoids_literal {text : Text} (avoids : Avoids (.char '/') (.char '*') text.toList) :
    Avoids (.char '/') (.char '*') (ofString (literal text)).toList := by
  have body : Avoids (.char '/') (.char '*')
      (text.toList.flatMap fun point => (escapedPoint point).map .char) := by
    refine avoids.flatMap (fun point written there mark => ?_) fun point => ?_
    · obtain ⟨letter, inside, rfl⟩ := List.mem_map.1 there
      obtain ⟨whole, same⟩ := mark_of_mem_escapedPoint inside (by simpa using mark)
      rw [whole, same]
      exact ⟨rfl, rfl⟩
    · simpa using escapedPoint_ne_nil point
  rw [toList_ofString, literal, String.toList_ofList, List.map_append, List.map_cons,
    List.map_flatMap]
  refine List.isChain_cons.2 ⟨?_, ?_⟩
  · rintro next _ ⟨impossible, _⟩
    exact absurd impossible (by decide)
  · exact body.append (List.isChain_singleton _) fun _ begins => absurd begins (by decide)

/-- The first line of a text is its beginning. It ends before the first character that ends a line,
or with the text. -/
theorem prefix_of_lines {line : List CodePoint} {more : List (List CodePoint)}
    (cut : lines text = line :: more) : line <+: text := by
  fun_induction lines text generalizing line more with
  | case1 => cases cut
  | case2 rest ih =>
    cases cut
    exact List.nil_prefix
  | case3 character rest pair ends ih =>
    cases cut
    exact List.nil_prefix
  | case4 character rest pair ends none ih =>
    cases cut
    exact ⟨rest, rfl⟩
  | case5 character rest pair ends first others some ih =>
    cases cut
    exact List.cons_prefix_cons.2 ⟨rfl, ih some⟩

/-- A line is a part of its text. So a line holds no mark that the text does not hold. -/
theorem infix_of_mem_lines {line : List CodePoint} (there : line ∈ lines text) :
    line <:+: text := by
  fun_induction lines text generalizing line with
  | case1 => cases there
  | case2 rest ih =>
    rcases List.mem_cons.1 there with rfl | later
    · exact List.nil_infix
    · exact (ih later).trans ⟨[.char '\r', .char '\n'], [], by simp⟩
  | case3 character rest pair ends ih =>
    rcases List.mem_cons.1 there with rfl | later
    · exact List.nil_infix
    · exact List.infix_cons (ih later)
  | case4 character rest pair ends none ih =>
    rw [List.mem_singleton.1 there]
    exact List.IsPrefix.isInfix ⟨rest, rfl⟩
  | case5 character rest pair ends first others some ih =>
    rcases List.mem_cons.1 there with rfl | later
    · exact (List.cons_prefix_cons.2 ⟨rfl, prefix_of_lines some⟩).isInfix
    · exact List.infix_cons (ih (some ▸ List.mem_cons_of_mem first later))

/-- What is left of a text without the blanks at its end is its beginning. -/
theorem trimEnd_prefix : trimEnd text <+: text := List.rdropWhile_prefix isBlank text

end Text

namespace Comment

open Text (Avoids)

/-- A disarmed text begins as before: a mark that is broken up keeps its star. -/
theorem head?_disarm {text : List CodePoint} : (disarm text).head? = text.head? := by
  fun_cases disarm text <;> rfl

/-- In a disarmed text no mark ends a comment. The cases are those of the recursion that breaks the
marks up. -/
theorem avoids_disarm {text : List CodePoint} : Avoids (.char '*') (.char '/') (disarm text) := by
  fun_induction disarm text with
  | case1 rest ih =>
    refine List.isChain_cons_cons.2 ⟨by decide, List.isChain_cons_cons.2 ⟨by decide, ?_⟩⟩
    exact List.isChain_cons.2 ⟨fun _ _ both => absurd both.1 (by decide), ih⟩
  | case2 character rest apart ih =>
    refine List.isChain_cons.2 ⟨?_, ih⟩
    rw [head?_disarm]
    rintro next begins ⟨rfl, rfl⟩
    obtain ⟨later, rfl⟩ : ∃ later, rest = .char '/' :: later := by
      cases rest with
      | nil => cases begins
      | cons first later => exact ⟨later, by rw [Option.some.inj begins]⟩
    exact apart later rfl rfl
  | case3 => exact List.IsChain.nil

/-- In a line of a paragraph no mark ends a comment, since the lines are cut after the marks are
broken up, and a line is a part of the text. -/
theorem avoids_paragraphLine {paragraph line : List CodePoint}
    (there : line ∈ paragraphLines paragraph) : Avoids (.char '*') (.char '/') line := by
  unfold paragraphLines at there
  split at there
  · rw [List.mem_singleton.1 there]
    exact List.IsChain.nil
  · exact avoids_disarm.infix (Text.infix_of_mem_lines there)

/-- In a line inside a comment no mark ends the comment. The blank behind the star keeps it apart
from a slash at the beginning of the paragraph. -/
theorem avoids_commentLine {indent : Nat} {line : List CodePoint}
    (avoids : Avoids (.char '*') (.char '/') line) :
    Avoids (.char '*') (.char '/') (commentLine indent line) := by
  let margin := List.replicate indent (CodePoint.char ' ') ++ (" * " : Text).toList
  have noSlash : .char '/' ∉ margin := by
    rw [List.mem_append, not_or]
    exact ⟨fun there => absurd (List.eq_of_mem_replicate there) (by decide), by decide⟩
  have whole : Avoids (.char '*') (.char '/') (margin ++ line) := by
    refine (Text.avoids_of_second_notMem noSlash).append avoids fun ends => ?_
    rw [List.getLast?_append_of_ne_nil _ (by decide)] at ends
    exact absurd ends (by decide)
  have same : List.replicate indent (.char ' ') ++ .char ' ' :: .char '*' :: .char ' ' :: line =
      margin ++ line := by simp [margin]
  rw [commentLine, same]
  exact whole.prefix Text.trimEnd_prefix

end Comment

end OpenApiTypes
