import EntityBinding.Proofs.Flags

/-!
# The index rules

Three rules ask for an index: the entry `index`, the entry `unique`, and a relation.  Those that
apply to a property are `Property.indexRules`, each with the flags that it adds.

They are carried out in order (`Property.runRules`).  A rule adds its flags first and then takes
an index, so the rule that finds one taken fails with its flags added, and no rule after it adds
any.  A kind of index that does not exist is found before any rule is carried out
(`Property.AsksUnknownKind`).

The derivation of flags is a run of these rules, after the flag of an identity
(`Property.deriveFlags_outcome`).  If it comes to an end, the property has all the flags that its tag
asks for, and at most one rule has asked for an index (`Property.deriveFlags_property`).
`Property.deriveFlags_decided_by_rules` reads off when it fails and what it leaves behind in each
case, of a property in any state.
-/

namespace EntityBinding

open Text (lowercaseString)

/-- The kinds of an index: the values that ask for them, in small letters, with their flags. -/
def indexKinds : List (String × List Flag) :=
  [("", []), ("value", [.indexValue]), ("hash", [.indexHash]), ("hash64", [.indexHash64])]

namespace Annotations

/-- The rule for the entry `index`, if there is one. -/
def indexRule (a : Annotations) : List (List Flag) :=
  (a.get? "index").toList.map fun value =>
    .indexed :: (indexKinds.lookup (lowercaseString value)).getD []

/-- The rule for the entry `unique`, if there is one. -/
def uniqueRule (a : Annotations) : List (List Flag) :=
  if a.contains "unique" then [[.unique]] else []

end Annotations

namespace Property

/-- The rule for a relation, if there is one. -/
def relationRule (relation : Option String) : List (List Flag) :=
  if relation.isSome then [[]] else []

/-- The flags of the index rules that apply to a property, rule by rule. -/
def indexRules (p : Property) : List (List Flag) :=
  p.annotations.indexRule ++ p.annotations.uniqueRule ++ relationRule p.relation

/-- The tag asks with `value` for an index of a kind that does not exist. -/
def AsksUnknownKind (p : Property) (value : String) : Prop :=
  p.annotations.get? "index" = some value ∧ lowercaseString value ∉ indexKinds.map Prod.fst

/-- A property after some rules, with the error of the one that found an index taken. -/
def runRules (p : Property) : List (List Flag) → Option FieldError × Property
  | [] => (none, p)
  | rule :: rest =>
      match p.index with
      | some _ => (some .indexAlreadyDefined, { p with flags := p.flags ++ rule })
      | none => runRules { p with flags := p.flags ++ rule, index := some .unassigned } rest

/-! ## Runs of rules -/

theorem runRules_singleton (p : Property) (rule : List Flag) :
    p.runRules [rule] =
      match p.index with
      | some _ => (some .indexAlreadyDefined, { p with flags := p.flags ++ rule })
      | none => (none, { p with flags := p.flags ++ rule, index := some .unassigned }) := rfl

/-- More rules go on from what the rules before them left, unless one of those failed. -/
theorem runRules_append (more : List (List Flag)) :
    ∀ (rules : List (List Flag)) (p : Property), p.runRules (rules ++ more) =
      match p.runRules rules with
      | (none, q) => q.runRules more
      | (some e, q) => (some e, q)
  | [], _ => rfl
  | rule :: rest, p => by
      rw [List.cons_append, runRules, runRules]
      cases p.index with
      | some ids => rfl
      | none => exact runRules_append more rest _

/-- What some rules leave of a property.  The rules up to the one that finds an index taken are
`done`, and each of them adds its flags. -/
theorem runRules_cases (p : Property) (rules : List (List Flag)) :
    ∃ done, (p.runRules rules).2 = { p with
        flags := p.flags ++ done.flatten
        index := if p.index = none ∧ done ≠ [] then some .unassigned else p.index } ∧
      (done = [] ↔ rules = []) ∧
      ((p.runRules rules).1 = none ∧ done = rules ∧
          (rules.length = 0 ∨ rules.length = 1 ∧ p.index = none) ∨
        (p.runRules rules).1 = some .indexAlreadyDefined ∧
          ¬(rules.length = 0 ∨ rules.length = 1 ∧ p.index = none) ∧
          ∃ before refused after, rules = before ++ refused :: after ∧
            done = before ++ [refused] ∧
            before.length = if p.index.isSome then 0 else 1) := by
  cases rules with
  | nil => exact ⟨[], by simp [runRules], by simp, .inl (by simp [runRules])⟩
  | cons first rest =>
      cases taken : p.index with
      | some ids =>
          refine ⟨[first], by simp [runRules, taken], by simp, .inr ⟨by simp [runRules, taken], ?_,
            [], first, rest, rfl, rfl, rfl⟩⟩
          simp
      | none =>
          cases rest with
          | nil =>
              exact ⟨[first], by simp [runRules, taken], by simp,
                .inl (by simp [runRules, taken])⟩
          | cons second more =>
              refine ⟨[first, second], by simp [runRules, taken], by simp,
                .inr ⟨by simp [runRules, taken], ?_, [first], second, more, rfl, rfl, rfl⟩⟩
              simp

/-- Rules keep what they go by. -/
theorem runRules_keeps (p : Property) (rules : List (List Flag)) :
    (p.runRules rules).2.annotations = p.annotations ∧
      (p.runRules rules).2.relation = p.relation := by
  obtain ⟨done, left, -⟩ := runRules_cases p rules
  rw [left]
  exact ⟨rfl, rfl⟩

end Property

/-! ## The rules as runs -/

namespace Derivation

/-- The error of some rules, with the property that they leave. -/
def outcome (d : Derivation) : Option FieldError × Property := (d.failure, d.property)

theorem andThen_outcome (d : Derivation) (rule : Property → Derivation) :
    (d.andThen rule).outcome =
      match d.outcome with
      | (none, q) => (rule q).outcome
      | (some e, q) => (some e, q) := by
  rw [andThen, outcome, outcome]
  cases failed : d.failure with
  | none => rfl
  | some e => simp [failed]

/-- To add flags and take an index is to carry out one rule. -/
theorem allocate_outcome (p : Property) (rule : List Flag) :
    (allocate { p with flags := p.flags ++ rule }).outcome = p.runRules [rule] := by
  rw [Property.runRules_singleton, allocate, Property.allocateIndex]
  cases p.index with
  | none => rfl
  | some ids => rfl

end Derivation

namespace Property

theorem indexKind_of_lookup {value : String} {flags : List Flag}
    (h : indexKinds.lookup (lowercaseString value) = some flags) :
    ∃ kind?, indexKind value = .ok kind? ∧ kind?.toList = flags := by
  obtain ⟨before, after, rows, -⟩ := List.lookup_eq_some_iff.1 h
  have row : (lowercaseString value, flags) ∈ indexKinds := by simp [rows]
  rw [indexKind]
  generalize lowercaseString value = small at row
  simp only [indexKinds, List.mem_cons, List.not_mem_nil, or_false, Prod.mk.injEq] at row
  rcases row with ⟨rfl, rfl⟩ | ⟨rfl, rfl⟩ | ⟨rfl, rfl⟩ | ⟨rfl, rfl⟩
  · exact ⟨none, rfl, rfl⟩
  · exact ⟨some .indexValue, rfl, rfl⟩
  · exact ⟨some .indexHash, rfl, rfl⟩
  · exact ⟨some .indexHash64, rfl, rfl⟩

theorem lookup_of_mem_indexKinds {small : String} (listed : small ∈ indexKinds.map Prod.fst) :
    ∃ flags, indexKinds.lookup small = some flags := by
  obtain ⟨row, hrow, rfl⟩ := List.mem_map.1 listed
  have all : ∀ row ∈ indexKinds, indexKinds.lookup row.1 = some row.2 := by decide
  exact ⟨row.2, all row hrow⟩

theorem indexKind_of_not_mem {value : String}
    (h : lowercaseString value ∉ indexKinds.map Prod.fst) :
    indexKind value = .error (.unknownIndexKind value) := by
  rw [indexKind]
  split
  next small => exact absurd (by rw [small]; decide) h
  next small => exact absurd (by rw [small]; decide) h
  next small => exact absurd (by rw [small]; decide) h
  next small => exact absurd (by rw [small]; decide) h
  next => rfl

theorem markIndexed_of_asksUnknownKind {p : Property} {value : String}
    (asks : p.AsksUnknownKind value) :
    p.markIndexed.outcome = (some (.unknownIndexKind value), p) := by
  simp only [markIndexed, asks.1, indexKind_of_not_mem asks.2, Derivation.outcome]

theorem markIndexed_outcome {p : Property} (known : ∀ value, ¬p.AsksUnknownKind value) :
    p.markIndexed.outcome = p.runRules p.annotations.indexRule := by
  rw [markIndexed, Annotations.indexRule]
  cases entry : p.annotations.get? "index" with
  | none => rfl
  | some value =>
      have listed : lowercaseString value ∈ indexKinds.map Prod.fst :=
        Decidable.byContradiction fun unknown => known value ⟨entry, unknown⟩
      obtain ⟨flags, lookup⟩ := lookup_of_mem_indexKinds listed
      obtain ⟨kind?, named, rfl⟩ := indexKind_of_lookup lookup
      simp only [named, lookup, Option.toList_some, List.map_singleton, Option.getD_some]
      cases kind? with
      | none => exact Derivation.allocate_outcome p [.indexed]
      | some kind =>
          rw [Derivation.andThen_outcome]
          simp only [Derivation.outcome, addFlag, List.append_assoc]
          exact Derivation.allocate_outcome p [.indexed, kind]

theorem markUnique_outcome (p : Property) :
    p.markUnique.outcome = p.runRules p.annotations.uniqueRule := by
  rw [markUnique, Annotations.uniqueRule]
  split
  · exact Derivation.allocate_outcome p [.unique]
  · rfl

theorem indexRelation_outcome (p : Property) :
    p.indexRelation.outcome = p.runRules (relationRule p.relation) := by
  rw [indexRelation, relationRule]
  split
  · simpa using Derivation.allocate_outcome p []
  · rfl

/-- The property with the flag of an identity, if its tag asks for it. -/
def withId (p : Property) : Property := { p with flags := p.flags ++ p.annotations.idFlags }

theorem markId_outcome (p : Property) : p.markId.outcome = (none, p.withId) :=
  Prod.ext rfl p.markId_property

/-- The derivation of flags is a run of the index rules, if the kind of index exists. -/
theorem deriveFlags_outcome {p : Property} (known : ∀ value, ¬p.AsksUnknownKind value) :
    p.deriveFlags.outcome = p.withId.runRules p.indexRules := by
  have indexed : (p.markId.andThen markIndexed).outcome =
      p.withId.runRules p.annotations.indexRule := by
    rw [Derivation.andThen_outcome, markId_outcome]
    exact markIndexed_outcome (p := p.withId) known
  -- The later rules look at the tag and the relation, which the earlier ones have kept.
  have next : ∀ (d : Derivation) (done more : List (List Flag)) (rule : Property → Derivation),
      d.outcome = p.withId.runRules done →
      (∀ q : Property, q.annotations = p.annotations → q.relation = p.relation →
        (rule q).outcome = q.runRules more) →
      (d.andThen rule).outcome = p.withId.runRules (done ++ more) := by
    intro d done more rule ran rules
    have kept := runRules_keeps p.withId done
    rw [Derivation.andThen_outcome, runRules_append, ran]
    generalize p.withId.runRules done = result at kept
    obtain ⟨failure, q⟩ := result
    cases failure with
    | some e => rfl
    | none => exact rules q kept.1 kept.2
  rw [deriveFlags, indexRules]
  refine next _ _ _ _ (next _ _ _ _ indexed fun q tag _ => ?_) fun q _ relation => ?_
  · rw [markUnique_outcome, tag]
  · rw [indexRelation_outcome, relation]

theorem deriveFlags_of_asksUnknownKind {p : Property} {value : String}
    (asks : p.AsksUnknownKind value) :
    p.deriveFlags.outcome = (some (.unknownIndexKind value), p.withId) := by
  have asks' : p.withId.AsksUnknownKind value := asks
  rw [deriveFlags, Derivation.andThen_outcome, Derivation.andThen_outcome,
    Derivation.andThen_outcome, markId_outcome]
  simp only [markIndexed_of_asksUnknownKind asks']

/-! ## A derivation that comes to an end -/

theorem kindFlags_eq_lookup (value : String) : Annotations.kindFlags value =
    (indexKinds.lookup (lowercaseString value)).getD [] := by
  rw [Annotations.kindFlags]
  by_cases listed : lowercaseString value ∈ indexKinds.map Prod.fst
  · obtain ⟨flags, lookup⟩ := lookup_of_mem_indexKinds listed
    obtain ⟨kind?, named, rfl⟩ := indexKind_of_lookup lookup
    rw [named, lookup]
    cases kind? <;> rfl
  · have notFound : indexKinds.lookup (lowercaseString value) = none := by
      rw [List.lookup_eq_none_iff]
      intro row hrow
      exact bne_iff_ne.2 fun same => listed (same ▸ List.mem_map_of_mem hrow)
    rw [indexKind_of_not_mem listed, notFound]
    rfl

/-- The flags of the rules are those that the tag asks for. -/
theorem flatten_indexRules (p : Property) :
    p.indexRules.flatten = p.annotations.indexFlags ++ p.annotations.uniqueFlags := by
  have index : p.annotations.indexRule.flatten = p.annotations.indexFlags := by
    rw [Annotations.indexRule, Annotations.indexFlags]
    cases p.annotations.get? "index" with
    | none => rfl
    | some value => simp [kindFlags_eq_lookup]
  have unique : p.annotations.uniqueRule.flatten = p.annotations.uniqueFlags := by
    rw [Annotations.uniqueRule, Annotations.uniqueFlags]
    split <;> rfl
  have relation : (relationRule p.relation).flatten = [] := by
    rw [relationRule]
    split <;> rfl
  rw [indexRules, List.flatten_append, List.flatten_append, index, unique, relation, List.append_nil]

theorem length_indexRules (p : Property) : p.indexRules.length = p.indexRequests := by
  have index : p.annotations.indexRule.length =
      [p.annotations.contains "index"].count true := by
    rw [Annotations.indexRule, Annotations.contains]
    cases p.annotations.get? "index" <;> rfl
  have unique : p.annotations.uniqueRule.length =
      [p.annotations.contains "unique"].count true := by
    rw [Annotations.uniqueRule]
    cases p.annotations.contains "unique" <;> rfl
  have relation : (relationRule p.relation).length = [p.relation.isSome].count true := by
    rw [relationRule]
    cases p.relation.isSome <;> rfl
  rw [indexRules, List.length_append, List.length_append, index, unique, relation,
    ← List.count_append, ← List.count_append]
  rfl

/-- The rules come to an end if and only if the kind of index exists and at most one of them asks
for an index, which the property must not have already. -/
theorem deriveFlags_failure_eq_none_iff {p : Property} :
    p.deriveFlags.failure = none ↔
      (∀ value, ¬p.AsksUnknownKind value) ∧
        (p.indexRequests = 0 ∨ p.indexRequests = 1 ∧ p.index = none) := by
  obtain ⟨done, -, -, outcomes⟩ := runRules_cases p.withId p.indexRules
  rw [length_indexRules] at outcomes
  constructor
  · intro ok
    have known : ∀ value, ¬p.AsksUnknownKind value := by
      intro value asks
      have failed := congrArg Prod.fst (deriveFlags_of_asksUnknownKind asks)
      rw [Derivation.outcome, ok] at failed
      cases failed
    refine ⟨known, ?_⟩
    rcases outcomes with ⟨-, -, free⟩ | ⟨failed, -⟩
    · exact free
    · rw [← deriveFlags_outcome known, Derivation.outcome, ok] at failed
      cases failed
  · rintro ⟨known, free⟩
    rcases outcomes with ⟨ok, -⟩ | ⟨-, taken, -⟩
    · rwa [← deriveFlags_outcome known] at ok
    · exact absurd free taken

/-- If the rules come to an end, then a property has the flags that its tag asks for, and an
index if there was a request.  There was one at most, on a property without an index. -/
theorem deriveFlags_property {p : Property} (ok : p.deriveFlags.failure = none) :
    p.deriveFlags.property = { p with
        flags := p.flags ++ p.annotations.flags
        index := if p.indexRequests = 0 then p.index else some .unassigned } ∧
      (p.indexRequests = 0 ∨ p.indexRequests = 1 ∧ p.index = none) := by
  obtain ⟨known, free⟩ := deriveFlags_failure_eq_none_iff.1 ok
  refine ⟨?_, free⟩
  have ran := deriveFlags_outcome known
  obtain ⟨done, left, -, ⟨-, rfl, -⟩ | ⟨failed, -⟩⟩ := runRules_cases p.withId p.indexRules
  · have property : p.deriveFlags.property = (p.withId.runRules p.indexRules).2 :=
      congrArg Prod.snd ran
    rw [property, left, flatten_indexRules, Annotations.flags]
    have noRule : p.indexRules = [] ↔ p.indexRequests = 0 := by
      rw [← length_indexRules, List.length_eq_zero_iff]
    rcases free with none | ⟨one, unindexed⟩
    · simp [withId, noRule, none]
    · simp [withId, noRule, one, unindexed]
  · rw [← ran, Derivation.outcome, ok] at failed
    cases failed

/-! ## Any derivation -/

/-- What the derivation of flags comes to, for a property in any state.  A kind of index that does
not exist fails, and otherwise a second index does.  The flags of an identity and of the rules that
were carried out are added in order: no rule if the kind does not exist, all of them on a success,
and else those up to the one that found an index taken.  The first rule of a property without an
index makes a new one.  Nothing else changes. -/
theorem deriveFlags_decided_by_rules (p : Property) :
    (∀ value, p.deriveFlags.failure = some (.unknownIndexKind value) ↔ p.AsksUnknownKind value) ∧
    ((∀ value, ¬p.AsksUnknownKind value) →
      (p.deriveFlags.failure = none ↔
        p.indexRules.length = 0 ∨ p.indexRules.length = 1 ∧ p.index = none) ∧
      (p.deriveFlags.failure ≠ none → p.deriveFlags.failure = some .indexAlreadyDefined)) ∧
    ∃ done, p.deriveFlags.property = { p with
        flags := p.flags ++ p.annotations.idFlags ++ done.flatten
        index := if p.index = none ∧ done ≠ [] then some .unassigned else p.index } ∧
      (done = [] ↔ p.indexRules = [] ∨ ∃ value, p.AsksUnknownKind value) ∧
      (p.deriveFlags.failure = none → done = p.indexRules) ∧
      (p.deriveFlags.failure = some .indexAlreadyDefined →
        ∃ before refused after, p.indexRules = before ++ refused :: after ∧
          done = before ++ [refused] ∧ before.length = if p.index.isSome then 0 else 1) := by
  by_cases unknown : ∃ value, p.AsksUnknownKind value
  · obtain ⟨value, asks⟩ := unknown
    obtain ⟨failed, left⟩ := Prod.mk.inj (deriveFlags_of_asksUnknownKind asks)
    rw [failed, left]
    refine ⟨fun other => ?_, fun known => absurd asks (known value), [], by simp [withId],
      ⟨fun _ => .inr ⟨value, asks⟩, fun _ => rfl⟩, nofun, nofun⟩
    rw [Option.some.injEq, FieldError.unknownIndexKind.injEq]
    refine ⟨fun same => same ▸ asks, fun asks' => ?_⟩
    exact Option.some.inj (asks.1.symm.trans asks'.1)
  · have known := not_exists.1 unknown
    have ran := deriveFlags_outcome known
    obtain ⟨done, left, noRule, outcomes⟩ := runRules_cases p.withId p.indexRules
    rw [← ran] at left outcomes
    have nothing : done = [] ↔ p.indexRules = [] ∨ ∃ value, p.AsksUnknownKind value := by
      rw [noRule, or_iff_left unknown]
    rcases outcomes with ⟨ok, all, free⟩ | ⟨failed, taken, refused⟩
    · have ok : p.deriveFlags.failure = none := ok
      rw [ok]
      refine ⟨fun value => ?_, fun _ => ⟨iff_of_true rfl free, fun h => absurd rfl h⟩, done, left,
        nothing, fun _ => all, nofun⟩
      exact iff_of_false (by simp) (known value)
    · have failed : p.deriveFlags.failure = some .indexAlreadyDefined := failed
      rw [failed]
      refine ⟨fun value => ?_, fun _ => ⟨iff_of_false (by simp) taken, fun _ => rfl⟩, done, left,
        nothing, nofun, fun _ => refused⟩
      exact iff_of_false (by simp) (known value)

end Property

end EntityBinding
