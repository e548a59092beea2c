import EntityBinding.Discovery.Flags

/-!
# What the flag rules give

The four rules of `Property.deriveFlags` add flags that depend on the tag alone, and
allocate an index for each of at most three requests.

*Flags.*  `Annotations.flags` are the flags that a tag asks for.  They hold no flag twice
(`Annotations.flags_nodup`), they hold `id`, `indexed` and `unique` if the tag has the entry,
and the flag of an index kind stands right behind `indexed` (`Annotations.flags_kindsFollow`).

*Index.*  `Property.indexRequests` counts the rules that ask for an index.

*Events.*  Only an index on values is told of (`Property.deriveFlags_events`).
-/

namespace EntityBinding

open Text (lowercaseString)

/-! ## Index kinds -/

/-- Whether a flag tells the kind of an index. -/
def Flag.isKind : Flag → Bool
  | indexValue | indexHash | indexHash64 => true
  | _ => false

/-- Every flag of an index kind stands right behind `indexed`. -/
def Flag.KindsFollow (flags : List Flag) : Prop :=
  ∀ before kind after, flags = before ++ kind :: after → kind.isKind = true →
    before.getLast? = some Flag.indexed

theorem Flag.kindsFollow_of_none {flags : List Flag} (h : ∀ f ∈ flags, f.isKind = false) :
    Flag.KindsFollow flags := by
  intro before kind after split isKind
  have hk : kind.isKind = false := h kind (by simp [split])
  rw [hk] at isKind
  cases isKind

theorem Flag.kindsFollow_pair (kind : Flag) : Flag.KindsFollow [.indexed, kind] := by
  intro before k after split isKind
  cases before with
  | nil =>
      simp only [List.nil_append, List.cons.injEq] at split
      rw [← split.1] at isKind
      cases isKind
  | cons first rest =>
      simp only [List.cons_append, List.cons.injEq] at split
      obtain ⟨rfl, split⟩ := split
      cases rest with
      | nil => rfl
      | cons second more =>
          simp only [List.cons_append, List.cons.injEq] at split
          have := congrArg List.length split.2
          simp at this

/-- Lists that are in order stay in order when they are joined. -/
theorem Flag.KindsFollow.append {xs ys : List Flag} (hx : Flag.KindsFollow xs)
    (hy : Flag.KindsFollow ys) : Flag.KindsFollow (xs ++ ys) := by
  intro before kind after split isKind
  rcases List.append_eq_append_iff.1 split with ⟨gap, rfl, hys⟩ | ⟨gap, hxs, hgap⟩
  · have last := hy gap kind after hys isKind
    rw [List.getLast?_append, last]
    rfl
  · cases gap with
    | nil =>
        rw [List.append_nil] at hxs
        subst hxs
        have last := hy [] kind after (by simpa using hgap.symm) isKind
        cases last
    | cons k more =>
        simp only [List.cons_append, List.cons.injEq] at hgap
        obtain ⟨rfl, -⟩ := hgap
        exact hx before kind more hxs isKind

/-! ## The flags of a tag -/

theorem Property.isKind_of_indexKind {value : String} {kind : Flag}
    (h : Property.indexKind value = .ok (some kind)) : kind.isKind = true := by
  rw [Property.indexKind] at h
  split at h
  · cases h
  · cases h; rfl
  · cases h; rfl
  · cases h; rfl
  · cases h

/-- A value names the kind of an index on values if it reads `value` in small letters. -/
theorem Property.indexKind_eq_indexValue {value : String} :
    Property.indexKind value = .ok (some .indexValue) ↔ lowercaseString value = "value" := by
  rw [Property.indexKind]
  constructor
  · intro kind
    split at kind
    next => cases kind
    next lowered => exact lowered
    all_goals cases kind
  · intro lowered
    simp only [lowered]

namespace Annotations

/-- The flags that the entry `id` asks for. -/
def idFlags (a : Annotations) : List Flag := if a.contains "id" then [.id] else []

/-- The flag that a value of the entry `index` asks for, if it names a kind. -/
def kindFlags (value : String) : List Flag :=
  match Property.indexKind value with
  | .ok (some kind) => [kind]
  | _ => []

/-- The flags that the entry `index` asks for. -/
def indexFlags (a : Annotations) : List Flag :=
  match a.get? "index" with
  | none => []
  | some value => .indexed :: kindFlags value

/-- The flags that the entry `unique` asks for. -/
def uniqueFlags (a : Annotations) : List Flag := if a.contains "unique" then [.unique] else []

/-- The flags that a tag asks for, in the order of the rules. -/
def flags (a : Annotations) : List Flag := a.idFlags ++ a.indexFlags ++ a.uniqueFlags

theorem mem_idFlags {a : Annotations} {f : Flag} :
    f ∈ a.idFlags ↔ f = .id ∧ a.contains "id" = true := by
  cases h : a.contains "id" with
  | true => simp [idFlags, h]
  | false => simp [idFlags, h]

theorem mem_uniqueFlags {a : Annotations} {f : Flag} :
    f ∈ a.uniqueFlags ↔ f = .unique ∧ a.contains "unique" = true := by
  cases h : a.contains "unique" with
  | true => simp [uniqueFlags, h]
  | false => simp [uniqueFlags, h]

theorem kindFlags_cases (value : String) :
    kindFlags value = [] ∨ ∃ kind, kind.isKind = true ∧ kindFlags value = [kind] := by
  rw [kindFlags]
  split
  next kind hk => exact .inr ⟨kind, Property.isKind_of_indexKind hk, rfl⟩
  next => exact .inl rfl

/-- The entry `index` asks for `indexed`, with at most the flag of a kind behind it. -/
theorem indexFlags_cases (a : Annotations) :
    (a.contains "index" = false ∧ a.indexFlags = []) ∨
      (a.contains "index" = true ∧ (a.indexFlags = [.indexed] ∨
        ∃ kind, kind.isKind = true ∧ a.indexFlags = [.indexed, kind])) := by
  rw [indexFlags, contains]
  cases a.get? "index" with
  | none => exact .inl ⟨rfl, rfl⟩
  | some value =>
      rcases kindFlags_cases value with plain | ⟨kind, hk, named⟩
      · exact .inr ⟨rfl, .inl (congrArg (Flag.indexed :: ·) plain)⟩
      · exact .inr ⟨rfl, .inr ⟨kind, hk, congrArg (Flag.indexed :: ·) named⟩⟩

theorem indexed_mem_indexFlags {a : Annotations} :
    Flag.indexed ∈ a.indexFlags ↔ a.contains "index" = true := by
  rcases a.indexFlags_cases with ⟨hi, hf⟩ | ⟨hi, hf | ⟨kind, -, hf⟩⟩
  · simp [hi, hf]
  · simp [hi, hf]
  · simp [hi, hf]

theorem indexValue_mem_indexFlags {a : Annotations} :
    Flag.indexValue ∈ a.indexFlags ↔ (a.get? "index").map lowercaseString = some "value" := by
  rw [indexFlags]
  cases a.get? "index" with
  | none => simp
  | some value =>
      rw [Option.map_some, Option.some.injEq, ← Property.indexKind_eq_indexValue]
      simp only [kindFlags]
      split
      next kind named => simp [named, eq_comm]
      next unnamed => simpa using unnamed .indexValue

theorem isKind_of_mem_indexFlags {a : Annotations} {f : Flag} (h : f ∈ a.indexFlags) :
    f = .indexed ∨ f.isKind = true := by
  rcases a.indexFlags_cases with ⟨-, hf⟩ | ⟨-, hf | ⟨kind, hk, hf⟩⟩
  · simp [hf] at h
  · simp only [hf, List.mem_singleton] at h
    exact .inl h
  · simp only [hf, List.mem_cons, List.not_mem_nil, or_false] at h
    rcases h with rfl | rfl
    · exact .inl rfl
    · exact .inr hk

theorem id_not_mem_indexFlags (a : Annotations) : Flag.id ∉ a.indexFlags := by
  intro h
  rcases isKind_of_mem_indexFlags h with h | h
  · cases h
  · cases h

theorem unique_not_mem_indexFlags (a : Annotations) : Flag.unique ∉ a.indexFlags := by
  intro h
  rcases isKind_of_mem_indexFlags h with h | h
  · cases h
  · cases h

theorem id_mem_flags {a : Annotations} : Flag.id ∈ a.flags ↔ a.contains "id" = true := by
  simp [flags, mem_idFlags, mem_uniqueFlags, id_not_mem_indexFlags]

theorem indexed_mem_flags {a : Annotations} :
    Flag.indexed ∈ a.flags ↔ a.contains "index" = true := by
  simp [flags, mem_idFlags, mem_uniqueFlags, indexed_mem_indexFlags]

theorem unique_mem_flags {a : Annotations} :
    Flag.unique ∈ a.flags ↔ a.contains "unique" = true := by
  simp [flags, mem_idFlags, mem_uniqueFlags, unique_not_mem_indexFlags]

theorem indexFlags_nodup (a : Annotations) : a.indexFlags.Nodup := by
  rcases a.indexFlags_cases with ⟨-, hf⟩ | ⟨-, hf | ⟨kind, hk, hf⟩⟩
  · simp [hf]
  · simp [hf]
  · have different : Flag.indexed ≠ kind := by
      rintro rfl
      cases hk
    simp [hf, different]

/-- A tag asks for no flag twice. -/
theorem flags_nodup (a : Annotations) : a.flags.Nodup := by
  have idNodup : a.idFlags.Nodup := by rw [idFlags]; split <;> simp
  have uniqueNodup : a.uniqueFlags.Nodup := by rw [uniqueFlags]; split <;> simp
  refine List.nodup_append.2 ⟨List.nodup_append.2 ⟨idNodup, a.indexFlags_nodup, ?_⟩,
    uniqueNodup, ?_⟩
  · rintro f hf g hg rfl
    obtain ⟨rfl, -⟩ := mem_idFlags.1 hf
    exact a.id_not_mem_indexFlags hg
  · rintro f hf g hg rfl
    obtain ⟨rfl, -⟩ := mem_uniqueFlags.1 hg
    rcases List.mem_append.1 hf with hf | hf
    · cases (mem_idFlags.1 hf).1
    · exact a.unique_not_mem_indexFlags hf

/-- In the flags of a tag a kind stands right behind `indexed`. -/
theorem flags_kindsFollow (a : Annotations) : Flag.KindsFollow a.flags := by
  have idFollow : Flag.KindsFollow a.idFlags :=
    Flag.kindsFollow_of_none (by
      intro f hf
      rw [(mem_idFlags.1 hf).1]
      rfl)
  have uniqueFollow : Flag.KindsFollow a.uniqueFlags :=
    Flag.kindsFollow_of_none (by
      intro f hf
      rw [(mem_uniqueFlags.1 hf).1]
      rfl)
  have indexFollow : Flag.KindsFollow a.indexFlags := by
    rcases a.indexFlags_cases with ⟨-, hf⟩ | ⟨-, hf | ⟨kind, -, hf⟩⟩
    · rw [hf]
      exact Flag.kindsFollow_of_none (by simp)
    · rw [hf]
      exact Flag.kindsFollow_of_none (by simp [Flag.isKind])
    · rw [hf]
      exact Flag.kindsFollow_pair kind
  exact (idFollow.append indexFollow).append uniqueFollow

end Annotations

/-! ## The rules -/

namespace Derivation

/-- A rule that emits nothing leaves the events as they are. -/
theorem andThen_events_of_silent {rule : Property → Derivation}
    (silent : ∀ p, (rule p).events = []) (d : Derivation) :
    (d.andThen rule).events = d.events := by
  rw [andThen]
  cases d.failure with
  | some e => rfl
  | none => simp [silent]

theorem allocate_events (p : Property) : (allocate p).events = [] := by
  rw [allocate]
  split
  · rfl
  · rfl

end Derivation

namespace Property

theorem markId_property (p : Property) :
    p.markId.property = { p with flags := p.flags ++ p.annotations.idFlags } := by
  rw [markId, Annotations.idFlags]
  split
  · rfl
  · simp [Derivation.unchanged]

/-- How many of the rules ask for an index. -/
def indexRequests (p : Property) : Nat :=
  [p.annotations.contains "index", p.annotations.contains "unique", p.relation.isSome].count true

/-! ## The events -/

theorem markIndexed_events (p : Property) :
    p.markIndexed.events =
      if .indexValue ∈ p.annotations.indexFlags then [.valueIndexRequested p.name] else [] := by
  rw [markIndexed]
  cases hv : p.annotations.get? "index" with
  | none => simp [Annotations.indexFlags, hv, Derivation.unchanged]
  | some value =>
      have flags : p.annotations.indexFlags = .indexed :: Annotations.kindFlags value := by
        rw [Annotations.indexFlags, hv]
      rw [flags]
      cases hk : indexKind value with
      | error e => simp [Annotations.kindFlags, hk]
      | ok kind? =>
          cases kind? with
          | none => simp [Annotations.kindFlags, hk, Derivation.allocate_events]
          | some kind =>
              simp [Annotations.kindFlags, hk, eq_comm,
                Derivation.andThen_events_of_silent Derivation.allocate_events]

theorem markUnique_events (p : Property) : p.markUnique.events = [] := by
  rw [markUnique]
  split
  · exact Derivation.allocate_events _
  · rfl

theorem indexRelation_events (p : Property) : p.indexRelation.events = [] := by
  rw [indexRelation]
  split
  · exact Derivation.allocate_events _
  · rfl

/-- The rules tell of an index on values, if the tag asks for one, and of nothing else. -/
theorem deriveFlags_events (p : Property) :
    p.deriveFlags.events =
      if .indexValue ∈ p.annotations.indexFlags then [.valueIndexRequested p.name] else [] := by
  have noted : ((p.markId).andThen markIndexed).events = p.markId.property.markIndexed.events :=
    List.nil_append _
  rw [deriveFlags, Derivation.andThen_events_of_silent indexRelation_events,
    Derivation.andThen_events_of_silent markUnique_events, noted, markIndexed_events, markId_property]

end Property

end EntityBinding
