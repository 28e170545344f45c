import OpenApiTypes.Proofs.Delimited
import OpenApiTypes.Source

/-!
# What the line of a member says

The key of a member is a run of the characters of names, and then a character of another kind
follows it, or it is a literal in double quotes, which ends by itself. So a key can be read wherever
it stands, and the word that marks a member read-only is told from a key by the blank behind it. A
reader that knows no more than this gets everything from the line that went into it.
-/
namespace OpenApiTypes

variable {name : List CodePoint} {character : CodePoint} {rest : List CodePoint}

/-- An identifier has a first character, which begins a name. So it is not empty, and it is no
literal. -/
theorem exists_nameStart (identifier : isIdentifier name = true) :
    ∃ first later, name = first :: later ∧ isNameStart first = true := by
  cases name with
  | nil => cases identifier
  | cons first later => exact ⟨first, later, rfl, (Bool.and_eq_true_iff.1 identifier).1⟩

/-- An identifier has only the characters of names. Its first one is of a narrower kind. -/
theorem isNamePart_of_mem (identifier : isIdentifier name = true) (there : character ∈ name) :
    isNamePart character = true := by
  obtain ⟨first, later, rfl, start⟩ := exists_nameStart identifier
  rcases List.mem_cons.1 there with rfl | behind
  · cases character with
    | char c => rw [isNamePart, start, Bool.true_or]
    | surrogate half => cases start
  · exact List.all_eq_true.1 (Bool.and_eq_true_iff.1 identifier).2 character behind

/-- A character that no name has is in no identifier. Commas, blanks and line feeds are such
characters. -/
theorem notMem_identifier (identifier : isIdentifier name = true)
    (foreign : isNamePart character = false) : character ∉ name := fun there =>
  Bool.false_ne_true (foreign.symm.trans (isNamePart_of_mem identifier there))

/-- The characters of keys without quotes: those of names, and the line feed at the end. -/
def isKeyPart (character : CodePoint) : Bool := isNamePart character || character == .char '\n'

/-- A key without quotes begins as a name and has only the characters of such keys, the line feed at
the end among them. -/
theorem bareKey_parts (bare : isBareKey name = true) :
    (∃ first later, name = first :: later ∧ isNameStart first = true) ∧
      ∀ character ∈ name, isKeyPart character = true := by
  have inName {text : List CodePoint} (identifier : isIdentifier text = true) :
      ∀ character ∈ text, isKeyPart character = true := fun character there => by
    rw [isKeyPart, isNamePart_of_mem identifier there, Bool.true_or]
  rcases Bool.or_eq_true_iff.1 bare with identifier | broken
  · exact ⟨exists_nameStart identifier, inName identifier⟩
  · obtain ⟨ends, identifier⟩ := Bool.and_eq_true_iff.1 broken
    obtain ⟨first, later, front, start⟩ := exists_nameStart identifier
    have whole : name = first :: (later ++ [.char '\n']) := by
      rw [← List.cons_append, ← front]
      exact (List.dropLast_append_getLast? _ (eq_of_beq ends)).symm
    refine ⟨⟨first, later ++ [.char '\n'], whole, start⟩, fun character there => ?_⟩
    rw [whole, ← List.cons_append, ← front] at there
    rcases List.mem_append.1 there with inside | last
    · exact inName identifier character inside
    · rw [List.mem_singleton.1 last]
      decide

/-- A character of a key between quotes is the quote or the backslash, behind a backslash, or
another character as it is. -/
theorem keyPoint_cases (character : CodePoint) :
    keyPoint character = [.char '\\', character] ∨
      keyPoint character = [character] ∧ character ≠ .char '"' ∧ character ≠ .char '\\' := by
  unfold keyPoint
  split
  · exact .inl rfl
  · rename_i unquoted
    exact .inr ⟨rfl, not_or.1 unquoted⟩

/-- Read a key between quotes behind the quote that opens it: a character behind a backslash is
meant as it is, and the first quote without a backslash ends the key. -/
def readQuotedKey? : List CodePoint → Option (List CodePoint × List CodePoint)
  | [] => none
  | .char '"' :: rest => some ([], rest)
  | .char '\\' :: character :: rest =>
    (readQuotedKey? rest).map fun read => (character :: read.1, read.2)
  | character :: rest => (readQuotedKey? rest).map fun read => (character :: read.1, read.2)

/-- Read a key at the front of a text: between quotes, or as far as there are characters of keys
without quotes. -/
def readKey? : List CodePoint → Option (List CodePoint × List CodePoint)
  | .char '"' :: rest => readQuotedKey? rest
  | text => some (text.takeWhile isKeyPart, text.dropWhile isKeyPart)

/-- A character of a key between quotes is read as itself, in either of these forms. -/
theorem readQuotedKey?_keyPoint : readQuotedKey? (keyPoint character ++ rest) =
    (readQuotedKey? rest).map fun read => (character :: read.1, read.2) := by
  rcases keyPoint_cases character with escaped | ⟨plain, noQuote, noBackslash⟩
  · rw [escaped]
    rfl
  · rw [plain, List.singleton_append, readQuotedKey?.eq_4]
    · exact noQuote
    · exact fun _ _ backslash => absurd backslash noBackslash

/-- A key between quotes is read up to its own closing quote, whatever is in it. The induction is on
the name, for every text that follows. -/
theorem readQuotedKey?_flatMap (name rest : List CodePoint) :
    readQuotedKey? (name.flatMap keyPoint ++ .char '"' :: rest) = some (name, rest) := by
  induction name with
  | nil => rfl
  | cons character later ih =>
    rw [List.flatMap_cons, List.append_assoc, readQuotedKey?_keyPoint, ih]
    rfl

/-- A key is written as its name, which is a bare key, or between quotes. -/
theorem memberKey_cases (name : Text) :
    (memberKey name).toList = name.toList ∧ isBareKey name.toList = true ∨
      (memberKey name).toList = .char '"' :: (name.toList.flatMap keyPoint ++ [.char '"']) := by
  unfold memberKey
  split
  · rename_i bare
    exact .inl ⟨rfl, bare⟩
  · exact .inr (by rw [Text.toList_ofList, List.cons_append])

/-- Nothing that could belong to a key without quotes is at the front of a text. -/
def EndsKey (rest : List CodePoint) : Prop := ∀ next ∈ rest.head?, isKeyPart next = false

/-- A key is read as its name when what follows it could not belong to a key. Only a key without
quotes needs that condition. -/
theorem readKey?_memberKey {name : Text} (ends : EndsKey rest) :
    readKey? ((memberKey name).toList ++ rest) = some (name.toList, rest) := by
  rcases memberKey_cases name with ⟨plain, bare⟩ | quoted
  · obtain ⟨⟨first, later, whole, start⟩, parts⟩ := bareKey_parts bare
    have noQuote : first ≠ .char '"' := by
      rintro rfl
      exact absurd start (by decide)
    rw [plain, readKey?, takeWhile_run parts ends, dropWhile_run parts ends]
    rw [whole]
    exact fun _ quote => noQuote (List.cons.inj quote).1
  · rw [quoted, List.cons_append, List.append_assoc, readKey?]
    exact readQuotedKey?_flatMap name.toList rest

/-- What the line of a member says about it, which is all but its comment. -/
structure MemberLine where
  name : Text
  type : Text
  isOptional : Bool
  isReadonly : Bool
  deriving DecidableEq

/-- Read the word for read-only members at the front of a line. A key cannot be taken for it, since
the word has a blank at its end. -/
def readReadonly (line : List CodePoint) : Bool × List CodePoint :=
  if ("readonly " : Text).toList.isPrefixOf line then (true, line.drop "readonly ".length)
  else (false, line)

/-- Read what is behind a key: the mark for optional members, and the type, which is all that is
left of the line. -/
def readBehindKey? : List CodePoint → Option (Bool × List CodePoint)
  | .char '?' :: .char ':' :: .char ' ' :: type => some (true, type)
  | .char ':' :: .char ' ' :: type => some (false, type)
  | _ => none

/-- Read the line of a member: the word for read-only members, the key, and what is behind it. It is
by what stands in the line alone that this is told. -/
def MemberLine.read? (line : List CodePoint) : Option MemberLine := do
  let (isReadonly, keyed) := readReadonly line
  let (name, behind) ← readKey? keyed
  let (isOptional, type) ← readBehindKey? behind
  return ⟨Text.ofList name, Text.ofList type, isOptional, isReadonly⟩

namespace Member

variable {δ : Type} {member otherMember : Member δ}

/-- What the line of a member has behind the key. It does not begin like anything that a bare key
could go on with. -/
def behindKey (member : Member δ) : List CodePoint :=
  (if member.isOptional then [.char '?'] else []) ++ .char ':' :: .char ' ' :: member.type.toList

/-- What the line of a member has to say, which is told back when the line is read. -/
def content (member : Member δ) : MemberLine :=
  ⟨member.name, member.type, member.isOptional, member.isReadonly⟩

/-- The line of a member has the word for read-only ones, the key, and what is behind it. -/
theorem toList_signature : member.signature.toList =
    (if member.isReadonly then ("readonly " : Text).toList else []) ++
      ((memberKey member.name).toList ++ member.behindKey) := by
  obtain ⟨name, type, comment, isOptional, isReadonly⟩ := member
  cases isOptional <;> cases isReadonly <;> simp [signature, behindKey, Text.toList_append]

/-- What is behind the key could not belong to it: a question mark or a colon. -/
theorem endsKey_behindKey : EndsKey member.behindKey := by
  unfold EndsKey behindKey
  cases member.isOptional with
  | true => rintro _ ⟨⟩; decide
  | false => rintro _ ⟨⟩; decide

/-- The word for read-only members is no key, because a blank is behind it. A member named like the
word has a question mark or a colon there. -/
theorem readonly_ne_key :
    ("readonly " : Text).toList ++ rest ≠ (memberKey member.name).toList ++ member.behindKey := by
  intro same
  have blank : EndsKey (.char ' ' :: rest) := by
    rintro _ ⟨⟩
    decide
  have word : ("readonly " : Text).toList ++ rest =
      (memberKey "readonly").toList ++ .char ' ' :: rest := rfl
  have read : readKey? (("readonly " : Text).toList ++ rest) =
      some (("readonly" : Text).toList, .char ' ' :: rest) := by
    rw [word]
    exact readKey?_memberKey blank
  rw [same, readKey?_memberKey endsKey_behindKey, Option.some.injEq, Prod.mk.injEq] at read
  have begins := read.2
  unfold behindKey at begins
  cases optional : member.isOptional <;> simp [optional] at begins

/-- The word for read-only members is read off the front of a line exactly when it was written
there. -/
theorem readReadonly_signature : readReadonly member.signature.toList =
    (member.isReadonly, (memberKey member.name).toList ++ member.behindKey) := by
  rw [toList_signature, readReadonly]
  cases member.isReadonly with
  | true => rfl
  | false =>
    have other : ¬ ("readonly " : Text).toList.isPrefixOf
        ([] ++ ((memberKey member.name).toList ++ member.behindKey)) = true := by
      rw [List.isPrefixOf_iff_prefix]
      rintro ⟨rest, same⟩
      exact readonly_ne_key same
    exact if_neg other

/-- What is behind the key is read as whether the member is optional, and its type. -/
theorem readBehindKey?_behindKey :
    readBehindKey? member.behindKey = some (member.isOptional, member.type.toList) := by
  unfold behindKey
  cases member.isOptional <;> rfl

/-- The line of a member is read as what it was written to say. The reader is one of its own: it
knows the grammar of such lines and not how they are written. -/
theorem read?_signature (member : Member δ) :
    MemberLine.read? member.signature.toList = some member.content := by
  simp [MemberLine.read?, readReadonly_signature, readKey?_memberKey endsKey_behindKey,
    readBehindKey?_behindKey, content]

/-- The line of a member determines its name, its type and both of its marks, since all of these can
be read off it. -/
theorem signature_inj (same : member.signature = otherMember.signature) :
    member.name = otherMember.name ∧ member.type = otherMember.type ∧
      member.isOptional = otherMember.isOptional ∧
      member.isReadonly = otherMember.isReadonly := by
  have contents : some member.content = some otherMember.content := by
    rw [← read?_signature, same, read?_signature]
  exact MemberLine.mk.inj (Option.some.inj contents)

/-- A line is read as what it was written to say about its member. So members have the same line
exactly when they have the same name, type and marks.

Proof: a reader takes the word for read-only members, the key and the rest from the front, one after
the other, and each is read up to where it was written to end. What can be read off a line is
determined by it. -/
theorem line_says_content (member otherMember : Member δ) :
    MemberLine.read? member.signature.toList = some member.content ∧
      (member.signature = otherMember.signature ↔
        member.name = otherMember.name ∧ member.type = otherMember.type ∧
          member.isOptional = otherMember.isOptional ∧
          member.isReadonly = otherMember.isReadonly) := by
  refine ⟨read?_signature member, signature_inj, ?_⟩
  rintro ⟨name, type, isOptional, isReadonly⟩
  rw [signature, signature, name, type, isOptional, isReadonly]

/-- A member that is called as the mark is not marked by its name, and quotes keep the mark out. -/
example :
    MemberLine.read? ("readonly: string" : Text).toList =
        some ⟨"readonly", "string", false, false⟩ ∧
      MemberLine.read? ("readonly readonly: string" : Text).toList =
        some ⟨"readonly", "string", false, true⟩ ∧
      MemberLine.read? ("\"readonly x\"?: string" : Text).toList =
        some ⟨"readonly x", "string", true, false⟩ := by decide

end Member

end OpenApiTypes
