import Mathlib.Data.List.Chain
import OpenApiTypes.Json

/-!
# Pairs of surrogates

A high surrogate with a low one directly behind it is written in a literal like the character that
the two encode, and is read back as that character. So of a text no more can be told from its
literals than its composed form, in which every such pair has become one character. Most texts are
their own composed form: all those in which no low surrogate stands directly behind a high one, and
with them all strings.
-/
namespace OpenApiTypes

namespace CodePoint

/-- Two code points are the halves of a pair: a high surrogate and a low one, in this order. -/
def isPair : CodePoint → CodePoint → Bool
  | surrogate high, surrogate low => high.val < 0x400 && 0x400 ≤ low.val
  | _, _ => false

/-- The character that a high and a low surrogate encode together. These are the characters beyond
0xFFFF, each of them with one pair. -/
def ofPair (high low : Surrogate) : CodePoint :=
  .ofNat (0x10000 + high * 0x400 + (low - 0x400))

/-- Code points with the character in the place of every pair. Surrogates without a partner stay,
and characters are never halves of anything. -/
def compose : List CodePoint → List CodePoint
  | surrogate high :: surrogate low :: rest =>
    if high.val < 0x400 ∧ 0x400 ≤ low.val then ofPair high low :: compose rest
    else surrogate high :: compose (surrogate low :: rest)
  | point :: rest => point :: compose rest
  | [] => []

variable {high low : Surrogate} {points rest : List CodePoint}

/-- A pair encodes a character beyond those that have a single code unit, and the number of that
character tells the two halves. -/
theorem exists_ofPair (isHigh : high.val < 0x400) (isLow : 0x400 ≤ low.val) : ∃ c : Char,
    ofPair high low = .char c ∧ c.toNat = 0x10000 + high.val * 0x400 + (low.val - 0x400) := by
  have small := low.isLt
  have valid : (0x10000 + high.val * 0x400 + (low.val - 0x400)).isValidChar := .inr (by omega)
  have outside : ¬ (0xD800 ≤ 0x10000 + high.val * 0x400 + (low.val - 0x400) ∧
      0x10000 + high.val * 0x400 + (low.val - 0x400) < 0xE000) := by omega
  refine ⟨Char.ofNat _, by rw [ofPair, ofNat, dif_neg outside], ?_⟩
  rw [Char.ofNat, dif_pos valid]
  rfl

/-- A character is kept, and what is on its two sides is composed by itself. Only surrogates are
ever put together, so a character ends every pair that could reach over it. The cases are those of
the composition. -/
theorem compose_append_char (c : Char) :
    compose (points ++ .char c :: rest) = compose points ++ .char c :: compose rest := by
  fun_induction compose points with
  | case1 high low later pair ih =>
    rw [List.cons_append, List.cons_append, compose, if_pos pair, ih]
    rfl
  | case2 high low later apart ih =>
    rw [List.cons_append, List.cons_append, compose, if_neg apart, ← List.cons_append, ih]
    rfl
  | case3 point later single ih =>
    rw [List.cons_append, compose, ih]
    · rfl
    · intro high low others isHigh behind
      cases later with
      | nil => cases behind
      | cons next more =>
        exact single high low more isHigh (congrArg (· :: more) (List.cons.inj behind).1)
  | case4 =>
    rw [List.nil_append, compose]
    · rfl
    · exact fun _ _ _ other => nomatch other

/-- A character of the composed code points was there before or takes two code units. So nothing
comes in that means something in a text: no quote, no slash, no line feed. -/
theorem mem_of_mem_compose {c : Char} (there : .char c ∈ compose points) :
    .char c ∈ points ∨ 0x10000 ≤ c.toNat := by
  fun_induction compose points with
  | case1 high low later pair ih =>
    obtain ⟨whole, composed, number⟩ := exists_ofPair pair.1 pair.2
    rcases List.mem_cons.1 there with same | behind
    · rw [composed] at same
      cases same
      exact .inr (by omega)
    · exact (ih behind).imp_left fun inside => .tail _ (.tail _ inside)
  | case2 high low later apart ih =>
    rcases List.mem_cons.1 there with same | behind
    · cases same
    · exact (ih behind).imp_left (.tail _)
  | case3 point later single ih =>
    rcases List.mem_cons.1 there with same | behind
    · exact .inl (same ▸ .head _)
    · exact (ih behind).imp_left (.tail _)
  | case4 => cases there

/-- Code points without pairs are composed: the step that puts two of them together is never taken.
-/
theorem compose_eq_self (apart : points.IsChain fun point next => isPair point next = false) :
    compose points = points := by
  fun_induction compose points with
  | case1 high low later pair =>
    have unpaired := (List.isChain_cons_cons.1 apart).1
    simp [isPair, pair] at unpaired
  | case2 high low later _ ih => rw [ih apart.tail]
  | case3 point later _ ih => rw [ih apart.tail]
  | case4 => rfl

end CodePoint

namespace Text

variable {text : Text}

/-- The text with the character in the place of every pair of surrogates. This is what is read where
the text was written as a literal. -/
def composed (text : Text) : Text := ofList (CodePoint.compose text.toList)

/-- A text in which no high surrogate has a low one directly behind it. Such a text is its own
composed form; every text without surrogates is one. -/
def IsComposed (text : Text) : Prop :=
  text.toList.IsChain fun point next => CodePoint.isPair point next = false

instance (text : Text) : Decidable text.IsComposed :=
  inferInstanceAs (Decidable (text.toList.IsChain fun point next => point.isPair next = false))

/-- The code points of a composed text are the composed code points of the text. -/
@[simp] theorem toList_composed (text : Text) :
    text.composed.toList = CodePoint.compose text.toList := toList_ofList _

/-- A text without pairs is its own composed form. Where the laws about written texts speak of
composed forms, they speak of the texts themselves for all such texts. -/
theorem IsComposed.composed_eq (apart : text.IsComposed) : text.composed = text := by
  rw [← toList_inj, toList_composed, CodePoint.compose_eq_self apart]

/-- A string is composed, since it has no surrogates. So for strings the laws about composed forms
are laws about the strings themselves. -/
theorem isComposed_ofString (string : String) : (ofString string).IsComposed := by
  unfold IsComposed
  rw [toList_ofString]
  induction string.toList with
  | nil => exact .nil
  | cons c rest ih =>
    cases rest with
    | nil => exact .singleton _
    | cons d more => exact .cons_cons rfl ih

/-- The composed form of a string is the string. -/
@[simp] theorem composed_ofString (string : String) : (ofString string).composed = string :=
  (isComposed_ofString string).composed_eq

/-- What stands on the two sides of a character is composed by itself. Texts that are put together
around a mark of their own, as the parts of a name are, keep their composed forms. -/
theorem composed_append_char (before after : Text) (c : Char) :
    (before ++ ofList [.char c] ++ after).composed =
      before.composed ++ ofList [.char c] ++ after.composed := by
  rw [← toList_inj]
  simp [CodePoint.compose_append_char]

/-- No character with a single code unit comes in by the composition. So a text without slashes has
none after it, either. -/
theorem notMem_composed {c : Char} (small : c.toNat < 0x10000) (absent : .char c ∉ text.toList) :
    .char c ∉ text.composed.toList := by
  intro there
  rw [toList_composed] at there
  rcases CodePoint.mem_of_mem_compose there with before | large
  · exact absent before
  · omega

/-- A pair of surrogates, which encodes the character with the number 0x1F600. The two are different
texts and have one literal. -/
def splitPair : Text := ⟨"", [(0x3D, ""), (0x600, "")]⟩

example : splitPair ≠ "😀" ∧ splitPair.composed = "😀" ∧ ¬ splitPair.IsComposed := by decide

/-- A text does not become empty when it is composed, since a character comes in for every pair that
goes. -/
theorem composed_eq_empty_iff : text.composed = "" ↔ text = "" := by
  rw [← toList_eq_nil_iff, ← toList_eq_nil_iff, toList_composed]
  fun_cases CodePoint.compose text.toList <;> simp

end Text

namespace Json

mutual

/-- The value with all of its texts and names in composed form. Where members come to have one name
the last of them counts, at the place of the first. -/
def composed : Json → Json
  | string text => string text.composed
  | array items => array (composedItems items)
  | object members => object (Table.ofList (composedMembers members)).entries
  | value => value

/-- The items in composed form, one by one. -/
def composedItems : List Json → List Json
  | [] => []
  | item :: rest => composed item :: composedItems rest

/-- The members in composed form, one by one. -/
def composedMembers : List (Text × Json) → List (Text × Json)
  | [] => []
  | (name, value) :: rest => (name.composed, composed value) :: composedMembers rest

end

/-- A member with its name and its value in composed form. -/
def composedMember (member : Text × Json) : Text × Json := (member.1.composed, member.2.composed)

/-- The members of an object are composed one by one. The definition goes through them by itself
because it is mutual with the one for values. -/
theorem composedMembers_eq_map (members : List (Text × Json)) :
    composedMembers members = members.map composedMember := by
  induction members with
  | nil => rfl
  | cons member others ih => rw [composedMembers, List.map_cons, ih, composedMember]

end Json

end OpenApiTypes
