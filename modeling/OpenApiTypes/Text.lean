/-!
# Texts

A text is a row of code points. Nearly all of them are characters, but JSON can also denote one half
of a surrogate pair by itself, and a text that was read from there keeps it. So a text is held as
its first run of characters and, for each surrogate, that surrogate and the run of characters behind
it. This form is unique, and a text without surrogates, which is nearly every one, is just a string.

A high surrogate with a low one directly behind it is not the character that the two encode
together. Texts are compared by code points, in equality as in order.
-/
namespace OpenApiTypes

/-- One of the 2048 surrogates, by its distance from the first. The upper half of them are low
surrogates, which stand second in a pair. -/
abbrev Surrogate := Fin 0x800

/-- A code point: a character or a surrogate. Together they are the numbers below 0x110000, and a
text may have any of them at any place. -/
inductive CodePoint where
  | char (c : Char)
  | surrogate (half : Surrogate)
  deriving DecidableEq, Repr

namespace CodePoint

instance : Coe Char CodePoint := ⟨char⟩

/-- The number of a code point. The surrogates fill the gap that characters leave between 0xD7FF and
0xE000. -/
def toNat : CodePoint → Nat
  | char c => c.toNat
  | surrogate half => 0xD800 + half

/-- The code point with a number. Numbers beyond the last code point count as zero. -/
def ofNat (number : Nat) : CodePoint :=
  if surrogates : 0xD800 ≤ number ∧ number < 0xE000 then .surrogate ⟨number - 0xD800, by omega⟩
  else .char (Char.ofNat number)

/-- No character has the number of a surrogate: the numbers of characters end before the surrogates
and go on behind them. -/
theorem toNat_bounds (c : Char) : c.toNat < 0xD800 ∨ 0xE000 ≤ c.toNat ∧ c.toNat < 0x110000 := by
  have valid : c.toNat < 0xD800 ∨ 0xDFFF < c.toNat ∧ c.toNat < 0x110000 := c.valid
  omega

/-- A code point is known by its number. Characters and surrogates have no number in common. -/
theorem toNat_inj {point other : CodePoint} : point.toNat = other.toNat ↔ point = other := by
  constructor
  · intro same
    cases point with
    | char c =>
      have bounds := toNat_bounds c
      cases other with
      | char d => exact congrArg char (Char.toNat_inj.1 same)
      | surrogate half =>
        simp only [toNat] at same
        omega
    | surrogate half =>
      cases other with
      | char d =>
        have bounds := toNat_bounds d
        simp only [toNat] at same
        omega
      | surrogate otherHalf =>
        simp only [toNat] at same
        exact congrArg surrogate (Fin.ext (by omega))
  · exact congrArg toNat

/-- The number of a code point leads back to it, for a surrogate as for a character. -/
theorem ofNat_toNat (point : CodePoint) : ofNat point.toNat = point := by
  cases point with
  | char c =>
    have bounds := toNat_bounds c
    have outside : ¬ (0xD800 ≤ c.toNat ∧ c.toNat < 0xE000) := by omega
    simp only [toNat, ofNat, dif_neg outside, Char.ofNat_toNat]
  | surrogate half =>
    have inside : 0xD800 ≤ 0xD800 + half.val ∧ 0xD800 + half.val < 0xE000 := by omega
    rw [toNat, ofNat, dif_pos inside]
    exact congrArg surrogate (Fin.ext (Nat.add_sub_cancel_left ..))

end CodePoint

/-- A text: a run of characters, and after it each surrogate with the run of characters behind it.
In this form a text without surrogates is a string and nothing else. -/
structure Text where
  head : String
  tail : List (Surrogate × String)
  deriving DecidableEq, Repr

namespace Text

/-- A string as a text without surrogates. Every text that is written out in this library is one of
these. -/
@[coe, match_pattern]
abbrev ofString (string : String) : Text := ⟨string, []⟩

instance : Coe String Text := ⟨ofString⟩

instance : Inhabited Text := ⟨ofString ""⟩

/-- The code points of a string, all of which are characters. -/
def pointsOf (string : String) : List CodePoint := string.toList.map .char

/-- The code points of a text, in order. Two texts are the same exactly when these are, so whatever
is said about a text can be said about its code points. -/
def toList (text : Text) : List CodePoint :=
  pointsOf text.head ++ text.tail.flatMap fun entry => .surrogate entry.1 :: pointsOf entry.2

/-- Put a code point in front of a run of characters and what is behind that run. A character makes
the run longer; a surrogate begins a new entry, before which the run is empty. -/
def attach (point : CodePoint) (behind : List Char × List (Surrogate × String)) :
    List Char × List (Surrogate × String) :=
  match point with
  | .char c => (c :: behind.1, behind.2)
  | .surrogate half => ([], (half, String.ofList behind.1) :: behind.2)

/-- The text of a row of code points: these are parted into runs of characters from the back to the
front. -/
def ofList (points : List CodePoint) : Text :=
  let runs := points.foldr attach ([], [])
  ⟨String.ofList runs.1, runs.2⟩

/-- The string that a text is, if it has no surrogates. This is where a text leaves for something
that takes characters alone. -/
def toString? (text : Text) : Option String :=
  if text.tail = [] then some text.head else none

/-- The bytes of a text in UTF-8, which has none for surrogates. -/
def toUTF8? (text : Text) : Option ByteArray := text.toString?.map String.toUTF8

/-- The count of bytes of a text in the names of files. There a surrogate stands for one byte. -/
def nameSize (text : Text) : Nat :=
  text.tail.foldl (fun size entry => size + 1 + entry.2.utf8ByteSize) text.head.utf8ByteSize

/-- The count of code points. A character counts once however many bytes it takes. -/
def length (text : Text) : Nat := text.toList.length

/-- Texts one behind the other, where the first is given by its parts. The last run of the first
text grows by the first run of the second. -/
def appendTo (head : String) : List (Surrogate × String) → Text → Text
  | [], other => ⟨head ++ other.head, other.tail⟩
  | (half, run) :: rest, other =>
    let behind := appendTo run rest other
    ⟨head, (half, behind.head) :: behind.tail⟩

instance : Append Text := ⟨fun text other => appendTo text.head text.tail other⟩

/-- The texts of a list one behind the other, with nothing in between. -/
def join : List Text → Text
  | [] => ""
  | text :: rest => text ++ join rest

/-- The texts of a list with a separator between them, and none before the first or behind the
last. -/
def intercalate (separator : Text) : List Text → Text
  | [] => ""
  | [text] => text
  | text :: rest => text ++ separator ++ intercalate separator rest

/-- The text with every code point changed. It has as many code points as before. -/
def map (change : CodePoint → CodePoint) (text : Text) : Text := ofList (text.toList.map change)

/-- Texts are in the order of their code points, compared from the front. -/
instance : LT Text := ⟨fun text other => text.toList.map (·.toNat) < other.toList.map (·.toNat)⟩

instance (text other : Text) : Decidable (text < other) :=
  inferInstanceAs (Decidable (text.toList.map (·.toNat) < other.toList.map (·.toNat)))

/-- The code points of a string are its characters. No surrogate is among them. -/
@[simp] theorem toList_ofString (string : String) :
    (ofString string).toList = string.toList.map .char := by
  simp [toList, pointsOf]

/-- The runs that a row of code points falls into hold these code points, in order. -/
theorem toList_foldr_attach (points : List CodePoint) :
    (points.foldr attach ([], [])).1.map .char ++
      ((points.foldr attach ([], [])).2.flatMap fun entry =>
        .surrogate entry.1 :: pointsOf entry.2) = points := by
  induction points with
  | nil => rfl
  | cons point rest ih =>
    cases point with
    | char c => simpa [attach] using ih
    | surrogate half => simpa [attach, pointsOf] using ih

/-- The text of a row of code points has these code points, in order. With the converse, texts and
rows are the same thing in two forms. -/
@[simp] theorem toList_ofList (points : List CodePoint) : (ofList points).toList = points := by
  simpa [ofList, toList, pointsOf] using toList_foldr_attach points

/-- The runs of a text are those into which its code points fall. This is the step for one run of
characters: it is put in front of the run behind it. -/
theorem foldr_attach_pointsOf (run : String) (behind : List Char × List (Surrogate × String)) :
    (pointsOf run).foldr attach behind = (run.toList ++ behind.1, behind.2) := by
  unfold pointsOf
  induction run.toList with
  | nil => rfl
  | cons c rest ih => simp [attach, ih]

/-- A row that begins with a surrogate, or is empty, has an empty first run. The induction is on the
surrogates, each with its run. -/
theorem foldr_attach_tail (tail : List (Surrogate × String)) :
    (tail.flatMap fun entry => .surrogate entry.1 :: pointsOf entry.2).foldr attach ([], []) =
      ([], tail) := by
  induction tail with
  | nil => rfl
  | cons entry rest ih =>
    simp [List.flatMap_cons, foldr_attach_pointsOf, ih, attach]

/-- The text of the code points of a text is that text, so no two texts have the same code points.
-/
@[simp] theorem ofList_toList (text : Text) : ofList text.toList = text := by
  simp [ofList, toList, foldr_attach_pointsOf, foldr_attach_tail]

/-- A text is known by its code points. Nearly every equality between texts is proved through this
one. -/
theorem toList_inj {text other : Text} : text.toList = other.toList ↔ text = other := by
  constructor
  · intro same
    rw [← ofList_toList text, same, ofList_toList]
  · exact congrArg toList

/-- The code points of the first text come first, then those of the second, also where the last run
of the one grows by the first run of the other. -/
theorem toList_appendTo (head : String) (tail : List (Surrogate × String)) (other : Text) :
    (appendTo head tail other).toList = (Text.mk head tail).toList ++ other.toList := by
  induction tail generalizing head with
  | nil => simp [appendTo, toList, pointsOf]
  | cons entry rest ih =>
    obtain ⟨half, run⟩ := entry
    have behind := ih run
    simp only [toList, List.append_assoc] at behind
    simp only [appendTo, toList, List.flatMap_cons, List.cons_append, List.append_assoc, behind]

/-- To put texts together is to put their code points together. Two surrogates that come to stand
side by side stay two. -/
@[simp] theorem toList_append (text other : Text) :
    (text ++ other).toList = text.toList ++ other.toList := toList_appendTo ..

/-- The code points of joined texts are those of the texts, one after the other. -/
@[simp] theorem toList_join (texts : List Text) :
    (join texts).toList = texts.flatMap toList := by
  induction texts with
  | nil => rfl
  | cons text rest ih => rw [join, toList_append, ih, List.flatMap_cons]

/-- Texts with a separator between them have their code points with those of the separator between.
-/
theorem toList_intercalate (separator : Text) (texts : List Text) :
    (intercalate separator texts).toList = separator.toList.intercalate (texts.map toList) := by
  induction texts with
  | nil => rfl
  | cons text rest ih =>
    cases rest with
    | nil => simp [intercalate, List.intercalate]
    | cons next more =>
      rw [intercalate, toList_append, toList_append, ih]
      · simp [List.intercalate]
      · intro impossible
        cases impossible

/-- Only the empty text has no code points. A text with an empty first run may have a surrogate
behind it. -/
@[simp] theorem toList_eq_nil_iff {text : Text} : text.toList = [] ↔ text = "" :=
  @toList_inj text ""

/-- The text without code points is the empty string. -/
@[simp] theorem ofList_nil : ofList [] = ofString "" := rfl

/-- Only the empty row gives the empty text. The empty text is spelled as a string, as it is
everywhere. -/
@[simp] theorem ofList_eq_empty_iff {points : List CodePoint} :
    ofList points = ofString "" ↔ points = [] := by
  rw [← toList_inj, toList_ofList, toList_ofString]
  rfl

/-- A text is changed code point by code point. A character may become a surrogate, and the other
way round. -/
@[simp] theorem toList_map (change : CodePoint → CodePoint) (text : Text) :
    (text.map change).toList = text.toList.map change := toList_ofList _

/-- The length of a text is that of its row of code points. It is no count of bytes. -/
theorem length_toList (text : Text) : text.toList.length = text.length := rfl

/-- Strings that are one text are one string. So nothing is lost where a string is used as a
text. -/
@[simp] theorem ofString_inj {string other : String} :
    ofString string = other ↔ string = other := by
  simp [ofString]

/-- Just the texts that are strings have bytes: one with a surrogate has none. -/
theorem isSome_toUTF8?_iff {text : Text} :
    text.toUTF8?.isSome = true ↔ ∃ string : String, text = string := by
  constructor
  · intro hasBytes
    obtain ⟨head, tail⟩ := text
    cases tail with
    | nil => exact ⟨head, rfl⟩
    | cons entry rest => cases hasBytes
  · rintro ⟨string, rfl⟩
    rfl

/-- It does not matter which of three texts are put together first. This is known from the rows of
their code points. -/
theorem append_assoc (text other last : Text) :
    text ++ other ++ last = text ++ (other ++ last) := by
  simp [← toList_inj]

/-- What follows on a text is known from the two together. Names are read off behind a fixed
beginning in this way. -/
theorem append_right_inj (text : Text) {other last : Text} :
    text ++ other = text ++ last ↔ other = last := by
  simp [← toList_inj]

/-- Texts come one after the other in one order, that of their code points. -/
theorem lt_trans {text other last : Text} (before : text < other) (after : other < last) :
    text < last := List.lt_trans before after

/-- Of two texts at most one comes before the other. With the two laws beside this one it makes the
order a total one. -/
theorem lt_asymm {text other : Text} (before : text < other) : ¬ other < text :=
  List.lt_asymm before

/-- A text that comes before another is not the same. So names in increasing order are distinct. -/
theorem ne_of_lt {text other : Text} (before : text < other) : text ≠ other := by
  rintro rfl
  exact lt_asymm before before

/-- Of two texts one comes first, unless they are the same. This is what finds a name its place in a
set. -/
theorem lt_or_eq_or_gt (text other : Text) : text < other ∨ text = other ∨ other < text := by
  by_cases before : text < other
  · exact .inl before
  · by_cases after : other < text
    · exact .inr (.inr after)
    · have numbers := List.le_antisymm (List.not_lt.1 after) (List.not_lt.1 before)
      have points := (List.map_inj_right fun _ _ => CodePoint.toNat_inj.1).1 numbers
      exact .inr (.inl (toList_inj.1 points))

end Text

end OpenApiTypes
