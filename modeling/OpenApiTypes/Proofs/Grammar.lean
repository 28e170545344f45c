import Mathlib.Data.Option.Basic
import OpenApiTypes.Proofs.Schemas

/-!
# The schemas that have a shape

The schemas that are read as a shape are those that declare it, and every shape has a schema, the
one that says nothing else. Four members of a schema are ever looked at. Two schemas whose
references and types are the same, and whose parts again say the same, are read as the same shape,
whatever their other members are, at every level.

A schema without a shape is refused with what is wrong about it, unless it leads to a type that is
an array or an object. Nothing checks for such a type before it is looked up among the names of
types, and the lookup takes single data only; lists of types, which are common in schemas elsewhere,
are caught by no refusal.
-/
namespace OpenApiTypes

namespace Shape

variable {raw other : Json} {shape : Shape}

/-- The schema that declares a shape and has no other member. It is the shortest way to say the
shape. -/
def schema : Shape → Json
  | reference target => .object [("$ref", .string target)]
  | scalar type => .object [("type", .string type.name)]
  | list items => .object [("type", .string "array"), ("items", items.schema)]
  | map values => .object [("type", .string "object"), ("additionalProperties", values.schema)]

/-- Two schemas say the same: reference and type are the same, and items and values, where there are
any, say the same. Their other members may differ, and so may those of the parts. -/
inductive SaysSame : Json → Json → Prop
  | same (raw : Json) : SaysSame raw raw
  | members {raw other : Json} (references : raw.member? "$ref" = other.member? "$ref")
      (types : raw.member? "type" = other.member? "type")
      (items : Option.Rel SaysSame (raw.member? "items") (other.member? "items"))
      (values : Option.Rel SaysSame (raw.member? "additionalProperties")
        (other.member? "additionalProperties")) : SaysSame raw other

/-- What is looked at in two schemas that say the same: the reference and the type are the same, and
the items and the additional properties again say the same. -/
theorem SaysSame.parts (same : SaysSame raw other) :
    raw.member? "$ref" = other.member? "$ref" ∧ raw.member? "type" = other.member? "type" ∧
      Option.Rel SaysSame (raw.member? "items") (other.member? "items") ∧
      Option.Rel SaysSame (raw.member? "additionalProperties")
        (other.member? "additionalProperties") := by
  cases same with
  | same =>
    have itself (part : Option Json) : Option.Rel SaysSame part part := by
      cases part with
      | none => exact .none
      | some part => exact .some (.same part)
    exact ⟨rfl, rfl, itself _, itself _⟩
  | members references types items values => exact ⟨references, types, items, values⟩

/-- To say the same goes both ways: turned round, every rule is a rule again. -/
theorem SaysSame.symm (same : SaysSame raw other) : SaysSame other raw := by
  induction raw using Json.induction_member generalizing other with
  | step raw parts =>
    obtain ⟨references, types, items, values⟩ := same.parts
    have turned {name : Text}
        (related : Option.Rel SaysSame (raw.member? name) (other.member? name)) :
        Option.Rel SaysSame (other.member? name) (raw.member? name) := by
      generalize found : raw.member? name = part at related
      generalize other.member? name = counterpart at related
      cases related with
      | some same => exact .some (parts name _ found same)
      | none => exact .none
    exact .members references.symm types.symm (turned items) (turned values)

/-- A part that is found has a counterpart in every schema that says the same. -/
theorem exists_counterpart {found others : Option Json} {part : Json}
    (same : Option.Rel SaysSame found others) (there : found = some part) :
    ∃ counterpart, others = some counterpart ∧ SaysSame part counterpart := by
  subst there
  cases same with
  | some same => exact ⟨_, rfl, same⟩

/-- A schema declares what a schema that says the same declares. The induction is on the
declaration, level by level. -/
theorem Declared.of_saysSame (declared : Declared raw shape) (same : SaysSame raw other) :
    Declared other shape := by
  induction declared generalizing other with
  | reference refers =>
    obtain ⟨references, _, _, _⟩ := same.parts
    exact .reference (references ▸ refers)
  | scalar free typed =>
    obtain ⟨references, types, _, _⟩ := same.parts
    exact .scalar (references ▸ free) (types ▸ typed)
  | list free typed found _ ih =>
    obtain ⟨references, types, items, _⟩ := same.parts
    obtain ⟨counterpart, otherFound, inner⟩ := exists_counterpart items found
    exact .list (references ▸ free) (types ▸ typed) otherFound (ih inner)
  | map free typed found _ ih =>
    obtain ⟨references, types, _, values⟩ := same.parts
    obtain ⟨counterpart, otherFound, inner⟩ := exists_counterpart values found
    exact .map (references ▸ free) (types ▸ typed) otherFound (ih inner)

/-- The schema of a shape declares it, so every shape is declared by some schema. -/
theorem declared_schema (shape : Shape) : Declared shape.schema shape := by
  induction shape with
  | reference target => exact .reference rfl
  | scalar type => exact .scalar rfl rfl
  | list items ih => exact .list rfl rfl rfl ih
  | map values ih => exact .map rfl rfl rfl ih

/-- A schema is read as a shape exactly when it declares that shape, every shape is read from the
schema that declares it alone, and schemas that say the same are read as the same shapes.

Proof: the first part is by the recursion of the reader one way and by induction on the declaration
the other way. The others follow from it without another look at the reader. -/
theorem ofJson_reads_grammar (raw : Json) (shape : Shape) :
    (ofJson raw = .ok shape ↔ Declared raw shape) ∧ ofJson shape.schema = .ok shape ∧
      ∀ other, SaysSame raw other → (ofJson raw = .ok shape ↔ ofJson other = .ok shape) := by
  refine ⟨ofJson_ok_iff, ofJson_ok_iff.2 (declared_schema shape), ?_⟩
  intro other same
  rw [ofJson_ok_iff, ofJson_ok_iff]
  constructor
  · intro declared
    exact declared.of_saysSame same
  · intro declared
    exact declared.of_saysSame same.symm

/-- A schema is read as a shape or refused for its shape unless it leads to a type that is an array
or an object. Then reading ends in a fault. The way there goes through items and additional
properties as far as types are found that name a list or a map.

Proof: reading ends in exactly one of three ways, and the third is the fault, which occurs at such a
type and nowhere else. -/
theorem ofJson_reports_iff (raw : Json) :
    ((∃ shape, ofJson raw = .ok shape) ∨ (∃ problem, ofJson raw = .error (.shape problem)) ↔
        ¬ Mistyped raw) ∧
      (ofJson raw = .error (.fault .compositeType) ↔ Mistyped raw) := by
  have faults : ofJson raw = .error (.fault .compositeType) ↔ Mistyped raw := by
    rw [ofJson_fault_iff]
    exact and_iff_right rfl
  refine ⟨?_, faults⟩
  rw [← faults]
  constructor
  · rintro (⟨shape, read⟩ | ⟨problem, read⟩) fault
    · rw [read] at fault
      cases fault
    · rw [read] at fault
      cases fault
  · intro reported
    rcases ofJson_cases raw with ⟨shape, _, read⟩ | ⟨problem, _, read⟩ | ⟨_, fault⟩
    · exact .inl ⟨shape, read⟩
    · exact .inr ⟨problem, read⟩
    · exact absurd fault reported

/-- The schema of a text that may be missing, with two types in a list. -/
def nullableText : Json := .object [("type", .array [.string "string", .string "null"])]

/-- A list of types is neither read nor refused. Schemas elsewhere use such lists for values that
may be missing. -/
theorem ofJson_nullableText : ofJson nullableText = .error (.fault .compositeType) ∧
    ¬ ((∃ shape, ofJson nullableText = .ok shape) ∨
      ∃ problem, ofJson nullableText = .error (.shape problem)) := by
  have fault : ofJson nullableText = .error (.fault .compositeType) := rfl
  refine ⟨fault, ?_⟩
  rw [fault]
  rintro (⟨shape, read⟩ | ⟨problem, read⟩)
  · cases read
  · cases read

end Shape

end OpenApiTypes
