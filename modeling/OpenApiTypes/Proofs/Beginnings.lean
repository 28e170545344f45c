import OpenApiTypes.Proofs.Surroundings

/-!
# The longest beginning counts

The rules for the beginnings of names are looked through once, with the best rule so far at hand:
one that applies, and whose beginning no other rule seen exceeds. Two beginnings of one name that
have one length are the same text, and a table has no two rules for one beginning. So the rule at
hand in the end is settled by which rules there are, and the order in which they come decides about
nothing: neither about the qualified name of a definition nor about which definitions have one.
-/
namespace OpenApiTypes.Simplifications

variable {rules others : Simplifications} {seen : List (Text × Text)} {keys : List Text}
  {name beginning other text : Text} {held : Option (Text × Text)}

/-- A name begins with a text if it is that text with something behind it, be it nothing. -/
def Begins (name beginning : Text) : Prop := ∃ rest, name = beginning ++ rest

/-- The longest of some texts with which a name begins. There may be none, and there is at most
one. -/
structure IsLongest (keys : List Text) (name beginning : Text) : Prop where
  listed : beginning ∈ keys
  begins : Begins name beginning
  longest : ∀ other ∈ keys, Begins name other → other.length ≤ beginning.length

/-- A rule applies to a name exactly when the name begins with the beginning of the rule. -/
theorem applies_iff : applies beginning name = true ↔ Begins name beginning := isPrefixOf_iff

/-- Of one name there is one beginning of each length: both are what is taken from its front. -/
theorem Begins.eq_of_length (begins : Begins name beginning) (otherBegins : Begins name other)
    (length : beginning.length = other.length) : beginning = other := by
  obtain ⟨rest, rfl⟩ := begins
  obtain ⟨otherRest, same⟩ := otherBegins
  have letters : beginning.toList ++ rest.toList = other.toList ++ otherRest.toList := by
    rw [← Text.toList_append, ← Text.toList_append, same]
  rw [← Text.length_toList, ← Text.length_toList] at length
  exact Text.toList_inj.1 (List.append_inj letters length).1

namespace IsLongest

/-- There is at most one longest beginning, since two of them have one length. -/
theorem unique (longest : IsLongest keys name beginning)
    (otherLongest : IsLongest keys name other) : other = beginning := by
  have atMost : other.length ≤ beginning.length :=
    longest.longest other otherLongest.listed otherLongest.begins
  have atLeast : beginning.length ≤ other.length :=
    otherLongest.longest beginning longest.listed longest.begins
  exact otherLongest.begins.eq_of_length longest.begins (Nat.le_antisymm atMost atLeast)

/-- Which beginning is the longest depends on which ones there are, and not on their order. -/
theorem congr {otherKeys : List Text} (same : ∀ key, key ∈ keys ↔ key ∈ otherKeys) :
    IsLongest keys name beginning ↔ IsLongest otherKeys name beginning := by
  constructor
  · intro longest
    refine ⟨(same _).1 longest.listed, longest.begins, fun other there => ?_⟩
    exact longest.longest other ((same other).2 there)
  · intro longest
    refine ⟨(same _).2 longest.listed, longest.begins, fun other there => ?_⟩
    exact longest.longest other ((same other).1 there)

/-- A longest beginning stays the longest when a key comes in that is none or no longer. In a run
through the rules this is the step in which the rule at hand stays. -/
theorem keep (longest : IsLongest keys name beginning)
    (within : Begins name other → other.length ≤ beginning.length) :
    IsLongest (other :: keys) name beginning where
  listed := List.mem_cons_of_mem other longest.listed
  begins := longest.begins
  longest := List.forall_mem_cons.2 ⟨within, longest.longest⟩

/-- A beginning that comes in is the longest if the earlier ones are no longer. This is the step in
which the rule at hand is replaced. -/
theorem replace (begins : Begins name beginning)
    (within : ∀ other ∈ keys, Begins name other → other.length ≤ beginning.length) :
    IsLongest (beginning :: keys) name beginning where
  listed := List.mem_cons_self
  begins := begins
  longest := List.forall_mem_cons.2 ⟨fun _ => Nat.le_refl _, within⟩

end IsLongest

/-- What is known about the best rule when some rules are seen: there is none if no rule applies,
and otherwise it is a rule with the longest beginning. -/
def IsBest (name : Text) (seen : List (Text × Text)) : Option (Text × Text) → Prop
  | none => ∀ key ∈ seen.map Prod.fst, ¬ Begins name key
  | some best => best ∈ seen ∧ IsLongest (seen.map Prod.fst) name best.1

/-- The best rule stays the best one when the choice is made between it and one more rule. Where no
rule applied before, the next one that applies is the best so far. -/
theorem IsBest.better (best : IsBest name seen held) (rule : Text × Text) :
    IsBest name (rule :: seen) (better name held rule) := by
  unfold Simplifications.better
  by_cases applied : Begins name rule.1
  · rw [if_pos (applies_iff.2 applied)]
    cases held with
    | none =>
      have within : ∀ other ∈ seen.map Prod.fst, Begins name other →
          other.length ≤ rule.1.length := fun other there begins => absurd begins (best other there)
      exact ⟨List.mem_cons_self, .replace applied within⟩
    | some first =>
      obtain ⟨among, longest⟩ := best
      by_cases longer : first.1.length < rule.1.length
      · have within : ∀ other ∈ seen.map Prod.fst, Begins name other →
            other.length ≤ rule.1.length := fun other there begins =>
          Nat.le_trans (longest.longest other there begins) (Nat.le_of_lt longer)
        simp only [if_pos longer]
        exact ⟨List.mem_cons_self, .replace applied within⟩
      · simp only [if_neg longer]
        exact ⟨List.mem_cons_of_mem rule among, longest.keep fun _ => Nat.le_of_not_lt longer⟩
  · rw [if_neg (mt applies_iff.1 applied)]
    cases held with
    | none => exact List.forall_mem_cons.2 ⟨applied, best⟩
    | some first =>
      obtain ⟨among, longest⟩ := best
      exact ⟨List.mem_cons_of_mem rule among, longest.keep fun begins => absurd begins applied⟩

/-- The choice among further rules, one after the other, gives the best of all. The rules seen are
listed from the last one back, so that each step puts one in front. -/
theorem IsBest.foldl (best : IsBest name seen held) (further : List (Text × Text)) :
    IsBest name (further.reverse ++ seen) (further.foldl (Simplifications.better name) held) := by
  induction further generalizing seen held with
  | nil => exact best
  | cons rule rest ih =>
    have step : IsBest name (rest.reverse ++ rule :: seen)
        (rest.foldl (Simplifications.better name) (Simplifications.better name held rule)) :=
      ih (best.better rule)
    simpa using step

/-- The rule that counts is the best one of the table: a run starts without a rule at hand, and that
is the best of no rules. -/
theorem isBest_longest? : IsBest name rules.entries.reverse (rules.longest? name) := by
  have start : IsBest name [] none := fun _ none => absurd none List.not_mem_nil
  have whole : IsBest name (rules.entries.reverse ++ []) (rules.longest? name) :=
    start.foldl rules.entries
  rwa [List.append_nil] at whole

/-- A table read from its end has the same keys. So which rule has the longest beginning cannot
depend on the order of the rules. -/
theorem mem_keys_reverse {key : Text} :
    key ∈ rules.entries.reverse.map Prod.fst ↔ key ∈ rules.keys := by
  simp [Table.keys]

/-- A name is left without replacement exactly when it begins with none of the keys. An empty key is
a beginning of every name, so a table that has it leaves none without. -/
theorem simplify?_eq_none_iff :
    rules.simplify? name = none ↔ ∀ key ∈ rules.keys, ¬ Begins name key := by
  have best : IsBest name rules.entries.reverse (rules.longest? name) := isBest_longest?
  rw [simplify?, Option.map_eq_none_iff]
  cases chosen : rules.longest? name with
  | none =>
    rw [chosen] at best
    exact iff_of_true rfl fun key there => best key (mem_keys_reverse.2 there)
  | some rule =>
    rw [chosen] at best
    obtain ⟨_, longest⟩ := best
    refine iff_of_false (Option.some_ne_none rule) fun none => ?_
    exact none rule.1 (mem_keys_reverse.1 longest.listed) longest.begins

/-- A name with a replacement is the longest key with which it begins, replaced, and what stands
behind it. Nothing else of the name changes, and the rest is not looked at again. -/
theorem simplify?_eq_some_iff : rules.simplify? name = some text ↔
    ∃ beginning replacement rest, IsLongest rules.keys name beginning ∧
      rules.get? beginning = some replacement ∧ name = beginning ++ rest ∧
      text = replacement ++ rest := by
  have best : IsBest name rules.entries.reverse (rules.longest? name) := isBest_longest?
  rw [simplify?, Option.map_eq_some_iff]
  constructor
  · rintro ⟨⟨beginning, replacement⟩, chosen, rfl⟩
    rw [chosen] at best
    obtain ⟨among, longest⟩ := best
    obtain ⟨rest, rfl⟩ := longest.begins
    refine ⟨beginning, replacement, rest, (IsLongest.congr fun _ => mem_keys_reverse).1 longest,
      ?_, rfl, ?_⟩
    · exact Table.get?_eq_some_iff.2 (List.mem_reverse.1 among)
    · rw [drop_append_eq]
  · rintro ⟨beginning, replacement, rest, longest, found, rfl, rfl⟩
    have longest : IsLongest (rules.entries.reverse.map Prod.fst) (beginning ++ rest) beginning :=
      (IsLongest.congr fun _ => mem_keys_reverse).2 longest
    cases chosen : rules.longest? (beginning ++ rest) with
    | none =>
      rw [chosen] at best
      exact absurd longest.begins (best beginning longest.listed)
    | some rule =>
      rw [chosen] at best
      obtain ⟨among, chosenLongest⟩ := best
      obtain rfl : beginning = rule.1 := chosenLongest.unique longest
      have same : rules.get? rule.1 = some rule.2 :=
        Table.get?_eq_some_iff.2 (List.mem_reverse.1 among)
      obtain rfl : rule.2 = replacement := Option.some.inj (same.symm.trans found)
      exact ⟨rule, rfl, by rw [drop_append_eq]⟩

/-- Rules in another order replace the same by the same. The two sides are compared by what they
give: a permutation leaves the keys, the longest one among them and the value under each as they
are. -/
theorem simplify?_perm (reordered : rules.entries.Perm others.entries) :
    others.simplify? name = rules.simplify? name := by
  have keys (key : Text) : key ∈ others.keys ↔ key ∈ rules.keys :=
    (reordered.map Prod.fst).symm.mem_iff
  have values (key value : Text) : others.get? key = some value ↔ rules.get? key = some value := by
    rw [Table.get?_eq_some_iff, Table.get?_eq_some_iff, reordered.mem_iff]
  refine Option.ext fun text => ?_
  simp only [simplify?_eq_some_iff, IsLongest.congr keys, values]

/-- The qualified name of a definition is the same for rules in another order, and with it whether
there is one. -/
theorem ofDefinition?_perm (reordered : rules.entries.Perm others.entries) :
    QualifiedName.ofDefinition? others = QualifiedName.ofDefinition? rules := by
  funext name
  rw [QualifiedName.ofDefinition?, QualifiedName.ofDefinition?, simplify?_perm reordered]

/-- Of all rules that apply to a name, the one with the longest beginning counts. A name without a
rule that applies has no replacement. Otherwise there is one longest key with which it begins, and
what stands under that key takes the place of this beginning. The order of the rules makes no
difference to that, nor to the qualified name of a definition or to which definitions of a
description have one.

Proof: a run through the rules keeps the best one of those seen so far, by `IsBest.better` for each
step. At the end that is the longest key, which is the only one of its length, and no law about it
mentions the order. -/
theorem simplify?_takes_longest (rules : Simplifications) (name : Text) :
    (rules.simplify? name = none ↔ ∀ key ∈ rules.keys, ¬ Begins name key) ∧
      (∀ key ∈ rules.keys, Begins name key → ∃ beginning replacement rest,
        IsLongest rules.keys name beginning ∧
        (∀ other, IsLongest rules.keys name other → other = beginning) ∧
        rules.get? beginning = some replacement ∧ name = beginning ++ rest ∧
        rules.simplify? name = some (replacement ++ rest)) ∧
      ∀ others : Simplifications, rules.entries.Perm others.entries →
        others.simplify? name = rules.simplify? name ∧
        QualifiedName.ofDefinition? others name = QualifiedName.ofDefinition? rules name ∧
        ∀ (document : Document) (settings otherSettings : Settings),
          settings.simplifications = rules → otherSettings.simplifications = others →
          document.named otherSettings = document.named settings := by
  refine ⟨simplify?_eq_none_iff, ?_, ?_⟩
  · intro key there begins
    cases simplified : rules.simplify? name with
    | none => exact absurd begins (simplify?_eq_none_iff.1 simplified key there)
    | some text =>
      obtain ⟨beginning, replacement, rest, longest, found, split, rfl⟩ :=
        simplify?_eq_some_iff.1 simplified
      exact ⟨beginning, replacement, rest, longest, fun other => longest.unique, found, split, rfl⟩
  · intro others reordered
    refine ⟨simplify?_perm reordered, ?_, ?_⟩
    · rw [ofDefinition?_perm reordered]
    · rintro document settings otherSettings rfl rfl
      rw [Document.named, Document.named, ofDefinition?_perm reordered]

/-- Rules for three beginnings of one name, the empty one among them. -/
def nestedRules : Simplifications := .ofList [("a.", "x."), ("a.b.", "y."), ("", "z.")]

/-- The longest of three beginnings of one name counts, in this order of the rules and in the
opposite one. The two others apply as well, and one of them comes later in each order. -/
theorem simplify?_takes_longest_of_nested : ∃ others : Simplifications,
    nestedRules.keys = ["a.", "a.b.", ""] ∧ others.keys = ["", "a.b.", "a."] ∧
      IsLongest nestedRules.keys "a.b.T" "a.b." ∧
      nestedRules.simplify? "a.b.T" = some "y.T" ∧ others.simplify? "a.b.T" = some "y.T" ∧
      ∀ document : Document, document.named { Settings.default with simplifications := others } =
        document.named { Settings.default with simplifications := nestedRules } := by
  obtain ⟨others, reordered, keys⟩ : ∃ others : Simplifications,
      nestedRules.entries.Perm others.entries ∧ others.keys = ["", "a.b.", "a."] :=
    ⟨⟨nestedRules.entries.reverse, by decide⟩, (List.reverse_perm _).symm, by decide⟩
  have atMost : ∀ key ∈ nestedRules.keys, key.length ≤ "a.b.".length := by decide
  have counts : IsLongest nestedRules.keys "a.b.T" "a.b." :=
    ⟨by decide, ⟨"T", by decide⟩, fun key there _ => atMost key there⟩
  obtain ⟨_, replaced, unordered⟩ := simplify?_takes_longest nestedRules "a.b.T"
  obtain ⟨beginning, replacement, rest, _, only, found, split, simplified⟩ :=
    replaced "a.b." counts.listed counts.begins
  obtain rfl : "a.b." = beginning := only "a.b." counts
  obtain rfl : "y." = replacement := Option.some.inj found
  obtain rfl : "T" = rest := (Text.append_right_inj "a.b.").1 split
  obtain ⟨same, _, kept⟩ := unordered others reordered
  exact ⟨others, by decide, keys, counts, simplified, same.trans simplified,
    fun document => kept document _ _ rfl rfl⟩

end OpenApiTypes.Simplifications
