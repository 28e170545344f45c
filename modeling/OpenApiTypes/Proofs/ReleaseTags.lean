import Mathlib.Data.List.TakeWhile
import OpenApiTypes.Proofs.Delimited
import OpenApiTypes.Version

/-!
# Tags of releases are tags of themselves

A text is settled when there is nothing to add to it: it begins with no digit, and it is no letter
before two numbers. Settled texts are exactly those that are their own tags. A tag is settled,
because its letter is no digit, and because the number that was added to it as the third one is not
the end of a second one. So a version and its tag have one tag. A letter in front of a version makes
no difference to the tag exactly when the version begins with a digit, of whatever script.
-/
namespace OpenApiTypes.Version

variable {text first second rest : List CodePoint}

/-- A number is a run of digits, at least one. The digits may be of any script, and zeros may come
first. -/
def IsNumber (digits : List CodePoint) : Prop :=
  digits ≠ [] ∧ ∀ digit ∈ digits, isDigit digit = true

/-- Nothing is to be added to a text: it begins with no digit, and it is no letter before two
numbers. -/
structure IsSettled (text : List CodePoint) : Prop where
  noDigit : ∀ first ∈ text.head?, isDigit first = false
  noPair : ∀ rest, text = .char 'v' :: rest → isTwoNumbers rest = false

/-- Behind two numbers with a point between them there may be a line feed, and nothing else. The two
runs of digits are cut off in full, since neither the point nor what follows is a digit. -/
theorem isTwoNumbers_append (isFirst : IsNumber first) (isSecond : IsNumber second)
    (ends : ∀ next ∈ rest.head?, isDigit next = false) :
    isTwoNumbers (first ++ .char '.' :: (second ++ rest)) =
      (rest == [] || rest == [.char '\n']) := by
  have point : ∀ next ∈ (.char '.' :: (second ++ rest)).head?, isDigit next = false := by
    rintro _ ⟨⟩
    decide
  simp [isTwoNumbers, takeWhile_run isFirst.2 point, dropWhile_run isFirst.2 point,
    takeWhile_run isSecond.2 ends, dropWhile_run isSecond.2 ends, isFirst.1, isSecond.1]

/-- Two numbers have a point between them and at most a line feed behind them. -/
theorem exists_numbers_of_isTwoNumbers (pair : isTwoNumbers text = true) :
    ∃ first second rest, text = first ++ .char '.' :: (second ++ rest) ∧ IsNumber first ∧
      IsNumber second ∧ (rest = [] ∨ rest = [.char '\n']) := by
  unfold isTwoNumbers at pair
  dsimp only at pair
  split at pair
  · next second behind =>
    simp only [Bool.and_eq_true, Bool.or_eq_true, Bool.not_eq_true', beq_iff_eq,
      List.isEmpty_eq_false_iff] at pair
    obtain ⟨⟨someFirst, someSecond⟩, left⟩ := pair
    refine ⟨_, _, second.dropWhile isDigit, ?_, ⟨someFirst, ?_⟩, ⟨someSecond, ?_⟩, left⟩
    · rw [List.takeWhile_append_dropWhile, ← behind, List.takeWhile_append_dropWhile]
    · exact fun _ => List.mem_takeWhile_imp
    · exact fun _ => List.mem_takeWhile_imp
  · cases pair

/-- Two numbers begin with a digit. So a text of this kind gets the letter in front. -/
theorem exists_digit_of_isTwoNumbers (pair : isTwoNumbers text = true) :
    ∃ first ∈ text.head?, isDigit first = true := by
  obtain ⟨number, _, _, rfl, ⟨something, digits⟩, _⟩ := exists_numbers_of_isTwoNumbers pair
  obtain ⟨first, others, rfl⟩ := List.exists_cons_of_ne_nil something
  exact ⟨first, rfl, digits first List.mem_cons_self⟩

/-- Two numbers with a third one added are no longer two, also when there is a line feed between. -/
theorem isTwoNumbers_third (pair : isTwoNumbers text = true) :
    isTwoNumbers (text ++ [.char '.', .char '0']) = false := by
  obtain ⟨first, second, rest, rfl, isFirst, isSecond, atEnd⟩ :=
    exists_numbers_of_isTwoNumbers pair
  have regrouped : first ++ .char '.' :: (second ++ rest) ++ [.char '.', .char '0'] =
      first ++ .char '.' :: (second ++ (rest ++ [.char '.', .char '0'])) := by simp
  rw [regrouped, isTwoNumbers_append isFirst isSecond]
  · rcases atEnd with rfl | rfl <;> rfl
  · rcases atEnd with rfl | rfl <;>
    · rintro _ ⟨⟩
      decide

/-- A text that begins with no digit gets no letter. The empty text is one of these. -/
theorem withLetter_of_noDigit (noDigit : ∀ first ∈ text.head?, isDigit first = false) :
    withLetter text = text := by
  cases text with
  | nil => rfl
  | cons first rest => simp [withLetter, noDigit first rfl]

/-- A text that begins with a digit gets the letter in front. The digit may be of any script. -/
theorem withLetter_of_digit (digit : ∃ first ∈ text.head?, isDigit first = true) :
    withLetter text = .char 'v' :: text := by
  obtain ⟨first, isFirst, digit⟩ := digit
  cases text with
  | nil => cases isFirst
  | cons other rest =>
    obtain rfl : other = first := Option.some.inj isFirst
    simp [withLetter, digit]

/-- A text begins with a digit, or it does not. The first case names the digit and what is behind
it. -/
theorem digit_or_noDigit (text : List CodePoint) :
    (∃ first ∈ text.head?, isDigit first = true) ∨ ∀ first ∈ text.head?, isDigit first = false := by
  by_cases digit : ∃ first ∈ text.head?, isDigit first = true
  · exact .inl digit
  · exact .inr fun first isFirst => Bool.eq_false_iff.2 fun isDigit =>
      digit ⟨first, isFirst, isDigit⟩

/-- With its letter a version begins with no digit: it had none at its front, or it has the letter
there. -/
theorem noDigit_withLetter (text : List CodePoint) :
    ∀ first ∈ (withLetter text).head?, isDigit first = false := by
  rcases digit_or_noDigit text with digit | noDigit
  · rw [withLetter_of_digit digit]
    rintro _ ⟨⟩
    decide
  · rwa [withLetter_of_noDigit noDigit]

/-- A text gets a third number behind it, or it has no two numbers behind the letter and stays. -/
theorem withThirdNumber_cases (text : List CodePoint) :
    (∃ rest, text = .char 'v' :: rest ∧ isTwoNumbers rest = true ∧
        withThirdNumber text = text ++ [.char '.', .char '0']) ∨
      withThirdNumber text = text ∧
        ∀ rest, text = .char 'v' :: rest → isTwoNumbers rest = false := by
  unfold withThirdNumber
  split
  · next rest =>
    cases pair : isTwoNumbers rest with
    | true => exact .inl ⟨rest, rfl, pair, rfl⟩
    | false =>
      refine .inr ⟨rfl, ?_⟩
      rintro _ ⟨⟩
      exact pair
  · next other => exact .inr ⟨rfl, fun rest same => absurd same (other rest)⟩

/-- With a third number in its place nothing is to be added to a text, as the third number is not
the end of a second one. -/
theorem isSettled_withThirdNumber (noDigit : ∀ first ∈ text.head?, isDigit first = false) :
    IsSettled (withThirdNumber text) := by
  rcases withThirdNumber_cases text with ⟨rest, rfl, pair, extended⟩ | ⟨stays, noPair⟩
  · rw [extended]
    refine ⟨noDigit, ?_⟩
    rintro _ ⟨⟩
    exact isTwoNumbers_third pair
  · rw [stays]
    exact ⟨noDigit, noPair⟩

/-- A text to which nothing is to be added gets no third number. It has the letter and is not two
numbers behind it, or it has no letter. -/
theorem IsSettled.withThirdNumber_eq (settled : IsSettled text) : withThirdNumber text = text := by
  rcases withThirdNumber_cases text with ⟨rest, whole, pair, _⟩ | ⟨stays, _⟩
  · rw [settled.noPair rest whole] at pair
    cases pair
  · exact stays

/-- A tag is the version with its letter and its third number. The letter is put in first, so that
the number can be missing behind it. -/
theorem toList_tag {version : Text} :
    (tag version).toList = withThirdNumber (withLetter version.toList) :=
  Text.toList_ofList _

/-- The tag of a string is a string: a letter and a third number come in, and no surrogate. -/
theorem tag_ofString (version : String) : tag version = tagString version := by
  have chars : ∃ run : List Char,
      withThirdNumber (withLetter (Text.ofString version).toList) = run.map .char := by
    obtain ⟨lettered, same⟩ : ∃ run : List Char,
        withLetter (Text.ofString version).toList = run.map .char := by
      rw [Text.toList_ofString]
      rcases digit_or_noDigit (version.toList.map .char) with digit | noDigit
      · exact ⟨'v' :: version.toList, withLetter_of_digit digit⟩
      · exact ⟨version.toList, withLetter_of_noDigit noDigit⟩
    rcases withThirdNumber_cases (lettered.map .char) with ⟨_, _, _, extended⟩ | ⟨stays, _⟩
    · exact ⟨lettered ++ ['.', '0'], by rw [same, extended, List.map_append]; rfl⟩
    · exact ⟨lettered, by rw [same, stays]⟩
  obtain ⟨run, same⟩ := chars
  have whole : tag version = Text.ofString (String.ofList run) := by
    rw [tag, same, ← Text.toList_inj, Text.toList_ofList, Text.toList_ofString,
      String.toList_ofList]
  rw [tagString, whole]

/-- A tag is settled, whatever it is the tag of. With a third number it is no longer two numbers. -/
theorem isSettled_tag (version : Text) : IsSettled (tag version).toList := by
  rw [toList_tag]
  exact isSettled_withThirdNumber (noDigit_withLetter _)

/-- The settled texts are those that are their own tags, and since tags are settled, no other text
is a tag. -/
theorem tag_eq_self_iff {version : Text} : tag version = version ↔ IsSettled version.toList := by
  constructor
  · intro same
    rw [← same]
    exact isSettled_tag version
  · intro settled
    rw [tag, withLetter_of_noDigit settled.noDigit, settled.withThirdNumber_eq,
      Text.ofList_toList]

/-- In front of a version that begins with a digit the letter is the one that the tag has anyway. In
front of any other it stays in the tag as one letter more, and keeps a third number out. The two
tags then have different lengths. -/
theorem tag_letter_eq_iff {version : Text} : tag ("v" ++ version) = tag version ↔
    ∃ first ∈ version.toList.head?, isDigit first = true := by
  have front : withLetter ("v" ++ version).toList = .char 'v' :: version.toList := by
    rw [Text.toList_append]
    exact withLetter_of_noDigit (by rintro _ ⟨⟩; decide)
  rw [← Text.toList_inj, toList_tag, toList_tag, front]
  constructor
  · intro same
    refine (digit_or_noDigit version.toList).resolve_right fun noDigit => ?_
    rw [withLetter_of_noDigit noDigit] at same
    have sizes := congrArg List.length same
    rcases withThirdNumber_cases (.char 'v' :: version.toList) with ⟨_, ⟨⟩, pair, _⟩ | ⟨stays, _⟩
    · obtain ⟨first, isFirst, digit⟩ := exists_digit_of_isTwoNumbers pair
      rw [noDigit first isFirst] at digit
      cases digit
    · rcases withThirdNumber_cases version.toList with ⟨_, _, _, extended⟩ | ⟨otherStays, _⟩
      · rw [stays, extended, List.length_cons, List.length_append] at sizes
        exact absurd sizes (by simp)
      · rw [stays, otherStays, List.length_cons] at sizes
        exact absurd sizes (by simp)
  · intro digit
    rw [withLetter_of_digit digit]

/-- The tag of a tag is that tag, and a letter in front of a version leaves its tag as it is exactly
when the version begins with a digit.

Proof: a tag is settled, and settled texts are their own tags. For the letter, the version with it
begins with no digit, so the two tags are the same where the version would get the letter anyway,
and of different lengths where it would not. -/
theorem tag_stable (version : Text) :
    tag (tag version) = tag version ∧
      (tag ("v" ++ version) = tag version ↔
        ∃ first ∈ version.toList.head?, isDigit first = true) :=
  ⟨tag_eq_self_iff.2 (isSettled_tag version), tag_letter_eq_iff⟩

/-- A line feed behind two numbers gets between them and the third one, and is no end of a second
number any more. -/
example : tag "1.30\n" = "v1.30\n.0" ∧ tag "v1.30\n.0" = "v1.30\n.0" := by decide

end OpenApiTypes.Version
