import OpenApiTypes.Proofs.Assembly
import OpenApiTypes.Proofs.Surroundings

/-!
# The core of an expression and what is wrapped around it

A shape is a core, a reference or a scalar, inside of any number of lists and maps. Its expression
is the text of the core with one wrapper for each of these, the outermost first; whether there is an
expression, and which name it uses, is settled by the core alone. So a shape either has an
expression and its table gains the one name at most, or it has none and the table stays as it is.

Wrappers can be taken off again. Each of the two begins in its own way, and a core without an angle
bracket begins like neither; so the expression gives back the wrappers and the text of the core. A
name is told from a scalar as long as it is not the word for one.
-/
namespace OpenApiTypes

variable {document : Document} {settings : Settings}

/-- What stands around a shape: a list or a map. A map has keys of one type, so nothing but its
values is to be told. -/
inductive Wrapper where
  | list
  | map
  deriving DecidableEq, Repr

/-- The text with which a wrapper opens. The two differ in their first character. -/
def Wrapper.opening : Wrapper → Text
  | list => "Array<"
  | map => "Record<string, "

/-- A text with a wrapper around it. Both wrappers close in the same way. -/
def Wrapper.around (wrapper : Wrapper) (text : Text) : Text := wrapper.opening ++ text ++ ">"

/-- A text with wrappers around it, the first of them outermost. Without wrappers it is the text
itself. -/
def wrapped (wrappers : List Wrapper) (text : Text) : Text :=
  wrappers.foldr Wrapper.around text

/-- What is inside of all lists and maps: a shape that is neither. -/
inductive Core where
  | reference (target : Text)
  | scalar (type : Scalar)
  deriving DecidableEq, Repr

namespace Shape

/-- The lists and maps of a shape, from the outside to the inside. -/
def wrappers : Shape → List Wrapper
  | reference _ => []
  | scalar _ => []
  | list items => .list :: items.wrappers
  | map values => .map :: values.wrappers

/-- The core of a shape. Together with the wrappers it is all of the shape. -/
def core : Shape → Core
  | reference target => .reference target
  | scalar type => .scalar type
  | list items => items.core
  | map values => values.core

end Shape

/-- A reference leads to a name: behind the agreed beginning stands the name of a definition, and
this is its qualified name. -/
def Document.LeadsTo (document : Document) (settings : Settings) (reference : Text)
    (qualified : QualifiedName) : Prop :=
  ∃ name, reference = settings.referenceStart ++ name ∧ name ∈ document.definitions.keys ∧
    QualifiedName.ofDefinition? settings.simplifications name = some qualified

/-- What a core means: its text and the name that it uses. Of the references only those to a type
that is not elided use a name. -/
inductive Core.Means (document : Document) (settings : Settings) : Core → TypeUse → Prop
  | scalar {type : Scalar} : Means document settings (.scalar type) ⟨type.expression, none⟩
  | elided {reference text : Text} {qualified : QualifiedName}
      (leads : document.LeadsTo settings reference qualified)
      (elided : settings.elided.get? qualified.typeName = some text) :
      Means document settings (.reference reference) ⟨text, none⟩
  | declared {reference : Text} {qualified : QualifiedName}
      (leads : document.LeadsTo settings reference qualified)
      (kept : settings.elided.contains qualified.typeName = false) :
      Means document settings (.reference reference) ⟨qualified.typeName, some qualified⟩

/-- A name has an expression when it has a qualified name: the text of an elided type, and otherwise
the name of the type. Only the second is a use of the type, to be imported where it is from
elsewhere. -/
theorem nameUse_ok_iff {reference name : Text} {use : TypeUse} :
    nameUse settings reference name = .ok use ↔
      ∃ qualified, QualifiedName.ofDefinition? settings.simplifications name = some qualified ∧
        ((∃ text, settings.elided.get? qualified.typeName = some text ∧ use = ⟨text, none⟩) ∨
          settings.elided.contains qualified.typeName = false ∧
            use = ⟨qualified.typeName, some qualified⟩) := by
  unfold nameUse Table.contains
  cases QualifiedName.ofDefinition? settings.simplifications name with
  | none => simp
  | some qualified =>
    simp only [Option.some.injEq, exists_eq_left']
    cases settings.elided.get? qualified.typeName with
    | none => simp [@eq_comm _ use]
    | some text => simp [@eq_comm _ use]

/-- The expression of a reference is what it means as a core: the reference leads to a definition of
the document, and this has a qualified name. -/
theorem referenceUse_ok_iff {reference : Text} {use : TypeUse} :
    referenceUse document settings reference = .ok use ↔
      (Core.reference reference).Means document settings use := by
  constructor
  · intro made
    by_cases starts : ∃ name, reference = settings.referenceStart ++ name
    · obtain ⟨name, rfl⟩ := starts
      rw [Document.referenceUse_append] at made
      by_cases defined : name ∈ document.definitions.keys
      · rw [if_pos defined, nameUse_ok_iff] at made
        obtain ⟨qualified, named, ⟨text, elided, rfl⟩ | ⟨kept, rfl⟩⟩ := made
        · exact .elided ⟨name, rfl, defined, named⟩ elided
        · exact .declared ⟨name, rfl, defined, named⟩ kept
      · rw [if_neg defined] at made
        cases made
    · rw [Document.referenceUse_elsewhere (not_exists.1 starts)] at made
      cases made
  · intro means
    cases means with
    | elided leads elided =>
      obtain ⟨name, rfl, defined, named⟩ := leads
      rw [Document.referenceUse_append, if_pos defined, nameUse_ok_iff]
      exact ⟨_, named, .inl ⟨_, elided, rfl⟩⟩
    | declared leads kept =>
      obtain ⟨name, rfl, defined, named⟩ := leads
      rw [Document.referenceUse_append, if_pos defined, nameUse_ok_iff]
      exact ⟨_, named, .inr ⟨kept, rfl⟩⟩

/-- A shape has an expression exactly when its core means something, and it is the text of the
core with the wrappers of the shape around it. It uses what the core uses. By induction on the
shape: a list or a map puts its wrapper around the expression of what is inside, and adds no use
of its own. -/
theorem Shape.use_ok_iff {shape : Shape} {use : TypeUse} :
    shape.use document settings = .ok use ↔
      ∃ inner, shape.core.Means document settings inner ∧
        use = ⟨wrapped shape.wrappers inner.text, inner.used⟩ := by
  induction shape generalizing use with
  | reference target =>
    change referenceUse document settings target = .ok use ↔ _
    rw [referenceUse_ok_iff]
    simp [core, wrappers, wrapped]
  | scalar type =>
    constructor
    · intro made
      exact ⟨use, Except.ok.inj made ▸ .scalar, rfl⟩
    · rintro ⟨inner, means, rfl⟩
      cases means
      rfl
  | list items ih =>
    rw [Shape.use, Traversal.map_ok_iff]
    constructor
    · rintro ⟨part, made, rfl⟩
      obtain ⟨inner, means, rfl⟩ := ih.1 made
      exact ⟨inner, means, rfl⟩
    · rintro ⟨inner, means, rfl⟩
      exact ⟨_, ih.2 ⟨inner, means, rfl⟩, rfl⟩
  | map values ih =>
    rw [Shape.use, Traversal.map_ok_iff]
    constructor
    · rintro ⟨part, made, rfl⟩
      obtain ⟨inner, means, rfl⟩ := ih.1 made
      exact ⟨inner, means, rfl⟩
    · rintro ⟨inner, means, rfl⟩
      exact ⟨_, ih.2 ⟨inner, means, rfl⟩, rfl⟩

/-- The trace of a shape, by what its core means: the wrapped text and the one name that the core
uses, if it uses one. -/
theorem Shape.trace_of_means {shape : Shape} {inner : TypeUse}
    (means : shape.core.Means document settings inner) :
    shape.trace document settings =
      ⟨.ok (wrapped shape.wrappers inner.text), inner.used.toList⟩ := by
  rw [Shape.trace, Shape.use_ok_iff.2 ⟨inner, means, rfl⟩, TypeUse.traced_ok]

/-- A shape without an expression uses nothing. Its core is the only part that could use a name, and
a core that means nothing does not get that far. -/
theorem Shape.used_of_trace_error {shape : Shape} {failure : Failure}
    (failed : (shape.trace document settings).result = .error failure) :
    (shape.trace document settings).used = [] := by
  unfold Shape.trace at failed ⊢
  cases outcome : shape.use document settings with
  | error _ => rfl
  | ok use =>
    rw [outcome] at failed
    cases failed

/-- A shape has an expression, with any table, exactly when its core means something. The expression
is the text of the core with the wrappers around it, and what the core uses is noted. -/
theorem Shape.run_expression_ok_iff {shape : Shape} {text : Text} {table after : ImportTable} :
    (shape.expression document settings).run table = .ok text after ↔
      ∃ inner, shape.core.Means document settings inner ∧
        text = wrapped shape.wrappers inner.text ∧ after = table.addAll inner.used.toList := by
  rw [shape.expression_eq, Traced.run_perform_ok_iff]
  constructor
  · rintro ⟨made, rfl⟩
    cases outcome : shape.use document settings with
    | error failure =>
      rw [Shape.trace, outcome] at made
      cases made
    | ok use =>
      obtain ⟨inner, means, rfl⟩ := Shape.use_ok_iff.1 outcome
      rw [Shape.trace_of_means means] at made ⊢
      exact ⟨inner, means, (Except.ok.inj made).symm, rfl⟩
  · rintro ⟨inner, means, rfl, rfl⟩
    rw [Shape.trace_of_means means]
    exact ⟨rfl, rfl⟩

/-- The expression of a shape is the text of its core with the wrappers of the shape around it. The
table goes through all lists and maps down to the core. Where there is no expression it comes back
as it was; where there is one, the table has gained the name that the core uses, if it uses one and
comes from another namespace, and nothing else.

Proof: to make the expression is to note, in the table, what the trace of the shape says. With a
core that means something the trace has the wrapped text and the name that the core uses. Otherwise
it has failed and has used nothing, so the table after it is the table before it. -/
theorem expression_wraps_core (document : Document) (settings : Settings) (shape : Shape)
    (table : ImportTable) :
    let outcome := (shape.expression document settings).run table
    (∀ text, (∃ after, outcome = .ok text after) ↔
      ∃ inner, shape.core.Means document settings inner ∧
        text = wrapped shape.wrappers inner.text) ∧
    (∀ failure after, outcome = .error failure after → after = table) ∧
    ∀ inner, shape.core.Means document settings inner →
      ∃ after, outcome = .ok (wrapped shape.wrappers inner.text) after ∧
        table.Gains inner.used.toList after := by
  refine ⟨fun text => ?_, fun failure after failed => ?_, fun inner means => ?_⟩
  · constructor
    · rintro ⟨after, made⟩
      obtain ⟨inner, means, same, _⟩ := Shape.run_expression_ok_iff.1 made
      exact ⟨inner, means, same⟩
    · rintro ⟨inner, means, same⟩
      exact ⟨_, Shape.run_expression_ok_iff.2 ⟨inner, means, same, rfl⟩⟩
  · rw [shape.expression_eq, Traced.run_perform_error_iff] at failed
    obtain ⟨stopped, rfl⟩ := failed
    rw [Shape.used_of_trace_error stopped]
    rfl
  · exact ⟨_, Shape.run_expression_ok_iff.2 ⟨inner, means, rfl, rfl⟩, table.gains_addAll _⟩

namespace Wrapper

/-- What stands around a text: the opening of the wrapper before it and an angle bracket behind
it. -/
theorem toList_around (wrapper : Wrapper) (text : Text) :
    (wrapper.around text).toList = wrapper.opening.toList ++ text.toList ++ [.char '>'] := by
  rw [around, Text.toList_append, Text.toList_append]
  rfl

/-- The first character tells which wrapper it is. No more than that character is needed, whatever
is inside. -/
theorem eq_of_head?_around {wrapper other : Wrapper} {text inner : Text}
    (same : (wrapper.around text).toList.head? = (other.around inner).toList.head?) :
    wrapper = other := by
  rw [toList_around, toList_around] at same
  cases wrapper with
  | list =>
    cases other with
    | list => rfl
    | map => exact absurd (Option.some.inj same) (by decide)
  | map =>
    cases other with
    | list => exact absurd (Option.some.inj same) (by decide)
    | map => rfl

/-- Texts that are the same with a wrapper around each have the same wrapper and the same text
inside. The first character tells the wrapper, and then the opening and the bracket are taken off on
both sides. -/
theorem around_inj {wrapper other : Wrapper} {text inner : Text}
    (same : wrapper.around text = other.around inner) : wrapper = other ∧ text = inner := by
  obtain rfl : wrapper = other := eq_of_head?_around (congrArg (·.toList.head?) same)
  have characters := congrArg Text.toList same
  rw [toList_around, toList_around] at characters
  have insides := List.append_cancel_left (List.append_cancel_right characters)
  exact ⟨rfl, Text.toList_inj.1 insides⟩

/-- Every wrapper has an angle bracket, so what is inside of one is told from a bare text. -/
theorem bracket_mem_around (wrapper : Wrapper) (text : Text) :
    .char '<' ∈ (wrapper.around text).toList := by
  have opens : .char '<' ∈ wrapper.opening.toList := by cases wrapper <;> decide
  rw [toList_around, List.append_assoc]
  exact List.mem_append_left _ opens

end Wrapper

/-- Wrappers can be taken off a text without angle brackets: it shows which they are, in order, and
what is inside. By induction on the wrappers of one side, with any wrappers on the other. -/
theorem wrapped_inj {wrappers others : List Wrapper} {text inner : Text}
    (bare : .char '<' ∉ text.toList) (bareInner : .char '<' ∉ inner.toList)
    (same : wrapped wrappers text = wrapped others inner) : wrappers = others ∧ text = inner := by
  induction wrappers generalizing others with
  | nil =>
    cases others with
    | nil => exact ⟨rfl, same⟩
    | cons other more =>
      have plain : text = other.around (wrapped more inner) := same
      exact absurd (plain ▸ other.bracket_mem_around _) bare
  | cons wrapper rest ih =>
    cases others with
    | nil =>
      have plain : wrapper.around (wrapped rest text) = inner := same
      exact absurd (plain ▸ wrapper.bracket_mem_around _) bareInner
    | cons other more =>
      have outermost : wrapper.around (wrapped rest text) = other.around (wrapped more inner) :=
        same
      obtain ⟨rfl, insides⟩ := Wrapper.around_inj outermost
      obtain ⟨rfl, found⟩ := ih insides
      exact ⟨rfl, found⟩

/-- The scalar as which a scalar is written: whole numbers count as numbers. -/
def Scalar.widened : Scalar → Scalar
  | integer => number
  | type => type

/-- Scalars that are no numbers have expressions of their own. The two that are numbers share
one. -/
theorem Scalar.expression_eq_iff {type other : Scalar} :
    type.expression = other.expression ↔ type.widened = other.widened := by
  cases type <;> cases other <;> decide

namespace Core

/-- A core whose text is not mistaken for anything else: a scalar, or a reference to a type that is
not elided, and whose name has no angle bracket and is no word for a scalar. -/
inductive Plain (document : Document) (settings : Settings) : Core → Prop
  | scalar {type : Scalar} : Plain document settings (.scalar type)
  | reference {reference : Text} {qualified : QualifiedName}
      (leads : document.LeadsTo settings reference qualified)
      (kept : settings.elided.contains qualified.typeName = false)
      (bare : .char '<' ∉ qualified.typeName.toList)
      (own : qualified.typeName ∉ (["string", "number", "boolean"] : List Text)) :
      Plain document settings (.reference reference)

/-- Two cores that are told apart by nothing: scalars that are the same or both numbers, or
references that lead to types of one name. -/
inductive Alike (document : Document) (settings : Settings) : Core → Core → Prop
  | scalars {type other : Scalar} (same : type.widened = other.widened) :
      Alike document settings (.scalar type) (.scalar other)
  | references {reference other : Text} {qualified otherQualified : QualifiedName}
      (leads : document.LeadsTo settings reference qualified)
      (leadsOther : document.LeadsTo settings other otherQualified)
      (same : qualified.typeName = otherQualified.typeName) :
      Alike document settings (.reference reference) (.reference other)

end Core

/-- A reference leads to one name at most, because it names one definition and this has one
qualified name. -/
theorem Document.LeadsTo.unique {reference : Text} {qualified other : QualifiedName}
    (leads : document.LeadsTo settings reference qualified)
    (leadsOther : document.LeadsTo settings reference other) : qualified = other := by
  obtain ⟨name, rfl, _, named⟩ := leads
  obtain ⟨again, same, _, namedOther⟩ := leadsOther
  obtain rfl : name = again := (Text.append_right_inj _).1 same
  exact Option.some.inj (named.symm.trans namedOther)

namespace Core

variable {core other : Core} {use useOther : TypeUse}

/-- A plain reference means the name of the type to which it leads. An elided type would be written
out instead. -/
theorem Means.text_of_plain {reference : Text} {qualified : QualifiedName}
    (means : (Core.reference reference).Means document settings use)
    (leads : document.LeadsTo settings reference qualified)
    (kept : settings.elided.contains qualified.typeName = false) :
    use.text = qualified.typeName := by
  cases means with
  | elided leadsElided elided =>
    obtain rfl := leads.unique leadsElided
    rw [Table.contains, elided] at kept
    cases kept
  | declared leadsDeclared _ => rw [leads.unique leadsDeclared]

/-- The text of a scalar is one of three words. A type with such a name could not be told from
it. -/
theorem expression_mem_words (type : Scalar) :
    type.expression ∈ (["string", "number", "boolean"] : List Text) := by
  cases type <;> decide

/-- The text of a plain core has no angle bracket. Every wrapper has one, so it is seen where the
wrappers end. -/
theorem Plain.bare (plain : core.Plain document settings)
    (means : core.Means document settings use) : .char '<' ∉ use.text.toList := by
  cases plain with
  | @scalar type =>
    cases means with
    | scalar => cases type <;> decide
  | reference leads kept bare _ =>
    rw [means.text_of_plain leads kept]
    exact bare

/-- Plain cores have one text exactly when nothing tells them apart. Scalars are compared by their
words, names as they are, and a name is no word for a scalar, so the mixed cases do not occur. -/
theorem Plain.text_eq_iff (plain : core.Plain document settings)
    (plainOther : other.Plain document settings) (means : core.Means document settings use)
    (meansOther : other.Means document settings useOther) :
    use.text = useOther.text ↔ core.Alike document settings other := by
  cases plain with
  | @scalar type =>
    cases means with
    | scalar =>
    cases plainOther with
    | @scalar otherType =>
      cases meansOther with
      | scalar =>
      constructor
      · intro same
        exact .scalars (Scalar.expression_eq_iff.1 same)
      · rintro ⟨same⟩
        exact Scalar.expression_eq_iff.2 same
    | reference leads kept _ own =>
      constructor
      · intro same
        rw [← meansOther.text_of_plain leads kept, ← same] at own
        exact absurd (expression_mem_words type) own
      · intro alike
        cases alike
  | reference leads kept _ own =>
    cases plainOther with
    | @scalar otherType =>
      cases meansOther with
      | scalar =>
      constructor
      · intro same
        rw [← means.text_of_plain leads kept, same] at own
        exact absurd (expression_mem_words otherType) own
      · intro alike
        cases alike
    | reference leadsOther keptOther _ _ =>
      rw [means.text_of_plain leads kept, meansOther.text_of_plain leadsOther keptOther]
      constructor
      · intro same
        exact .references leads leadsOther same
      · intro alike
        cases alike with
        | references leadsAgain leadsOtherAgain same =>
          rw [leads.unique leadsAgain, leadsOther.unique leadsOtherAgain, same]

end Core

/-- Expressions with plain cores tell the shapes apart, whatever tables they were made with. Two of
them are one text exactly when the shapes have the same lists and maps, in the same order, and
nothing tells their cores apart.

Proof: each expression is the text of its core with the wrappers around it. The text of a plain core
has no angle bracket, so the wrappers can be taken off and the texts of the cores remain. -/
theorem expressions_eq_iff {first second : Shape} {text other : Text}
    {table after otherTable otherAfter : ImportTable}
    (plain : first.core.Plain document settings) (plainOther : second.core.Plain document settings)
    (made : (first.expression document settings).run table = .ok text after)
    (madeOther : (second.expression document settings).run otherTable = .ok other otherAfter) :
    text = other ↔ first.wrappers = second.wrappers ∧
      first.core.Alike document settings second.core := by
  obtain ⟨inner, means, rfl, _⟩ := Shape.run_expression_ok_iff.1 made
  obtain ⟨innerOther, meansOther, rfl, _⟩ := Shape.run_expression_ok_iff.1 madeOther
  rw [← plain.text_eq_iff plainOther means meansOther]
  constructor
  · intro same
    exact wrapped_inj (plain.bare means) (plainOther.bare meansOther) same
  · rintro ⟨wrappers, texts⟩
    rw [wrappers, texts]

/-- Two types of one name, which is also how a wrapper begins. -/
def namesakeDocument : Document :=
  ⟨.string "", .string "", .ofList [("k.core.Array", ⟨.string "", none, none, []⟩),
    ("k.meta.Array", ⟨.string "", none, none, []⟩)]⟩

/-- Lists of maps of the two types have one expression, in a file that imports the first type and in
one that imports the other. It shows the list and the map, and the name of the types, which is all
that they have in common. -/
theorem expressions_eq_iff_of_namesakes :
    let first := Shape.list (.map (.reference "#/k.core.Array"))
    let second := Shape.list (.map (.reference "#/k.meta.Array"))
    first.core.Plain namesakeDocument sampleSettings ∧
      second.core.Plain namesakeDocument sampleSettings ∧
      (∃ after, (first.expression namesakeDocument sampleSettings).run (.empty "meta") =
        .ok "Array<Record<string, Array>>" after) ∧
      (∃ after, (second.expression namesakeDocument sampleSettings).run (.empty "core") =
        .ok "Array<Record<string, Array>>" after) ∧
      first.wrappers = second.wrappers ∧
      first.core.Alike namesakeDocument sampleSettings second.core := by
  have leads : namesakeDocument.LeadsTo sampleSettings "#/k.core.Array" ⟨"Array", "core"⟩ :=
    ⟨"k.core.Array", rfl, by decide +kernel, by decide +kernel⟩
  have leadsOther : namesakeDocument.LeadsTo sampleSettings "#/k.meta.Array" ⟨"Array", "meta"⟩ :=
    ⟨"k.meta.Array", rfl, by decide +kernel, by decide +kernel⟩
  have plain : (Core.reference "#/k.core.Array").Plain namesakeDocument sampleSettings :=
    .reference leads rfl (by decide) (by decide)
  have plainOther : (Core.reference "#/k.meta.Array").Plain namesakeDocument sampleSettings :=
    .reference leadsOther rfl (by decide) (by decide)
  obtain ⟨after, made⟩ : ∃ after, ((Shape.list (.map (.reference "#/k.core.Array"))).expression
      namesakeDocument sampleSettings).run (.empty "meta") =
        .ok "Array<Record<string, Array>>" after :=
    ⟨_, Shape.run_expression_ok_iff.2 ⟨_, .declared leads rfl, by decide, rfl⟩⟩
  obtain ⟨otherAfter, madeOther⟩ : ∃ after, ((Shape.list (.map (.reference
      "#/k.meta.Array"))).expression namesakeDocument sampleSettings).run (.empty "core") =
        .ok "Array<Record<string, Array>>" after :=
    ⟨_, Shape.run_expression_ok_iff.2 ⟨_, .declared leadsOther rfl, by decide, rfl⟩⟩
  exact ⟨plain, plainOther, ⟨after, made⟩, ⟨otherAfter, madeOther⟩,
    (expressions_eq_iff plain plainOther made madeOther).1 rfl⟩

end OpenApiTypes
