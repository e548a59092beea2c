import EntityBinding.Proofs.Load
import EntityBinding.Proofs.Resolution
import Mathlib.Data.List.Nodup

/-!
# Well-formed entities

`Property.WellFormed` says how the flags, the index and the relation of a property go together
with the tag that it was declared with, and `Entity.WellFormed` that its properties are well
formed, that it has one identity and that no two of its storage names are equal in small
letters.  None of its ids is given out yet.

A field becomes a well-formed property (`FieldGroup.Becomes.wellFormed`), and properties that
come from fields that all pass are apart from each other (`AllPass.pairwise_apart`), so a
build ends with a well-formed entity (`wellFormed_of_buildEntity`).

A walk adds nothing to a binding but what builds end with, so the entities of a binding are
well formed at every point of a sequence of loads, whether these succeed or not
(`wellFormed_throughout`).
-/

namespace EntityBinding

open Text (lowercaseString)

/-! ## Properties -/

/-- A property as discovery leaves it. -/
structure Property.WellFormed (p : Property) : Prop where
  /-- No flag stands twice. -/
  flags_nodup : p.flags.Nodup
  /-- An index kind stands right behind the flag of an index. -/
  kindsFollow : Flag.KindsFollow p.flags
  /-- An index has its flag. -/
  indexed : Flag.indexed ∈ p.flags ↔ p.annotations.contains "index" = true
  /-- A unique property has its flag. -/
  unique : Flag.unique ∈ p.flags ↔ p.annotations.contains "unique" = true
  /-- The relations are the properties with a target. -/
  relation : p.relation.isSome = true ↔ p.storageType = .relation
  /-- The relations are the properties whose tag has a link. -/
  link : p.relation.isSome = true ↔ p.annotations.contains "link" = true
  /-- At most one of the entries `index` and `unique` and of the relation asks for an index. -/
  requests : p.indexRequests ≤ 1
  /-- There is an index if there is a request for it. -/
  index : p.index.isSome = true ↔ p.indexRequests = 1
  /-- The index has no ids. -/
  index_unassigned : ∀ ids, p.index = some ids → ids = .unassigned
  /-- The property has no id. -/
  id : p.id = 0
  /-- The property has no unique id. -/
  uid : p.uid = 0

/-- A field becomes a well-formed property. -/
theorem FieldGroup.Becomes.wellFormed {f : FieldGroup} {p : Property} (becomes : f.Becomes p) :
    p.WellFormed where
  flags_nodup := by
    rw [becomes.flags]
    exact p.annotations.flags_nodup
  kindsFollow := by
    rw [becomes.flags]
    exact p.annotations.flags_kindsFollow
  indexed := by rw [becomes.flags, Annotations.indexed_mem_flags]
  unique := by rw [becomes.flags, Annotations.unique_mem_flags]
  relation := (resolveType_relation becomes.types).1
  link := (resolveType_relation becomes.types).2
  requests := becomes.requests
  index := by
    rw [becomes.index]
    by_cases one : p.indexRequests = 1
    · simp [one]
    · simp [one]
  index_unassigned := by
    intro ids h
    rw [becomes.index] at h
    split at h
    · cases h
      rfl
    · cases h
  id := becomes.id
  uid := becomes.uid

theorem FieldGroup.Becomes.id_mem_flags {f : FieldGroup} {p : Property} (becomes : f.Becomes p) :
    Flag.id ∈ p.flags ↔ p.isMarked = true := by
  rw [becomes.flags, Annotations.id_mem_flags]
  rfl

/-- A well-formed property stays so with the flag of an identity, if it has no such flag. -/
theorem Property.WellFormed.addFlag_id {p : Property} (h : p.WellFormed)
    (notId : Flag.id ∉ p.flags) : (p.addFlag .id).WellFormed where
  flags_nodup := by
    refine List.nodup_append.2 ⟨h.flags_nodup, by simp, ?_⟩
    rintro f hf g hg rfl
    rw [List.mem_singleton.1 hg] at hf
    exact notId hf
  kindsFollow := by
    refine h.kindsFollow.append (Flag.kindsFollow_of_none ?_)
    intro f hf
    rw [List.mem_singleton.1 hf]
    rfl
  indexed := by
    show Flag.indexed ∈ p.flags ++ [.id] ↔ p.annotations.contains "index" = true
    rw [← h.indexed]
    simp
  unique := by
    show Flag.unique ∈ p.flags ++ [.id] ↔ p.annotations.contains "unique" = true
    rw [← h.unique]
    simp
  relation := h.relation
  link := h.link
  requests := h.requests
  index := h.index
  index_unassigned := h.index_unassigned
  id := h.id
  uid := h.uid

/-! ## Properties beside each other -/

/-- Two properties have different storage names in small letters, and at most one of them is
marked. -/
def Property.Apart (p q : Property) : Prop :=
  lowercaseString p.storageName ≠ lowercaseString q.storageName ∧
    ¬(p.isMarked = true ∧ q.isMarked = true)

/-- A stored field that passes has a storage name of its own. -/
theorem FieldGroup.Passes.not_mem_takenNames {f : FieldGroup} {entity name : String}
    {a : Annotations} {earlier : List FieldGroup} (pass : f.Passes entity earlier)
    (stored : f.stored? = some (name, a)) :
    lowercaseString (storageNameOf name a) ∉ takenNames earlier := by
  intro taken
  have unique := pass .uniqueName
  simp only [Check.error?, stored, Option.bind_some, Check.storedError?, taken, if_true] at unique
  cases unique

/-- A stored field that passes and is marked is the first one that is. -/
theorem FieldGroup.Passes.markedNames_eq_nil {f : FieldGroup} {entity name : String}
    {a : Annotations} {earlier : List FieldGroup} (pass : f.Passes entity earlier)
    (stored : f.stored? = some (name, a)) (marked : a.contains "id" = true) :
    markedNames earlier = [] := by
  have identity := pass .identity
  simp only [Check.error?, stored, Option.bind_some, Check.storedError?, marked, if_true,
    Option.map_eq_none_iff] at identity
  exact List.head?_eq_none_iff.1 identity

/-- The properties of fields that all pass are apart from each other. -/
theorem AllPass.pairwise_apart {entity : String} {fields : List FieldGroup}
    (pass : AllPass entity fields) :
    (fields.filterMap FieldGroup.property?).Pairwise Property.Apart := by
  induction fields using List.reverseRecOn with
  | nil => exact .nil
  | append_singleton earlier f ih =>
      obtain ⟨before, last⟩ := allPass_append_singleton.1 pass
      rw [List.filterMap_append]
      refine List.pairwise_append.2 ⟨ih before, ?_, ?_⟩
      · cases hp : f.property? with
        | none => simp [hp]
        | some p => simp [hp]
      · intro q hq p hp
        obtain ⟨g, hg, property⟩ := List.mem_filterMap.1 hp
        rw [List.mem_singleton.1 hg] at property
        have stored := FieldGroup.stored?_of_property? property
        constructor
        · intro same
          apply last.not_mem_takenNames stored
          rw [before.allRead.takenNames, ← (FieldGroup.becomes_of_property? property).storageName,
            ← same]
          exact List.mem_map_of_mem hq
        · rintro ⟨qMarked, pMarked⟩
          have none := last.markedNames_eq_nil stored pMarked
          rw [before.allRead.markedNames, List.map_eq_nil_iff, List.filter_eq_nil_iff] at none
          exact none q hq qMarked

/-- At most one of several properties that are apart is marked. -/
theorem Property.eq_of_isMarked {ps : List Property} (apart : ps.Pairwise Property.Apart)
    {i j : Nat} (hi : i < ps.length) (hj : j < ps.length) (iMarked : ps[i].isMarked = true)
    (jMarked : ps[j].isMarked = true) : i = j := by
  rcases Nat.lt_trichotomy i j with before | same | behind
  · exact absurd ⟨iMarked, jMarked⟩ (List.pairwise_iff_getElem.1 apart i j hi hj before).2
  · exact same
  · exact absurd ⟨jMarked, iMarked⟩ (List.pairwise_iff_getElem.1 apart j i hj hi behind).2

/-! ## Entities -/

/-- An entity as discovery leaves it. -/
structure Entity.WellFormed (e : Entity) : Prop where
  /-- There are properties. -/
  nonempty : e.properties ≠ []
  /-- One property is the identity, and it alone has the flag of an identity, once. -/
  identity : ∃ i, ∃ hi : i < e.properties.length, e.identity = some i ∧
    e.properties[i].flags.count .id = 1 ∧
    ∀ j, ∀ hj : j < e.properties.length, j ≠ i → Flag.id ∉ e.properties[j].flags
  /-- No two storage names are equal in small letters. -/
  storageNames : (e.properties.map fun p => lowercaseString p.storageName).Nodup
  /-- The properties are well formed. -/
  properties : ∀ p ∈ e.properties, p.WellFormed
  /-- The entity has no id. -/
  id : e.id = 0
  /-- The entity has no unique id. -/
  uid : e.uid = 0
  /-- No property has got an id. -/
  lastPropertyId : e.lastPropertyId = .unassigned

/-- Well-formed properties that are apart make an entity with the marked one as identity. -/
theorem Entity.wellFormed_of_marked {entity : String} {ps : List Property} {i : Nat}
    (hi : i < ps.length) (wf : ∀ p ∈ ps, p.WellFormed)
    (flagged : ∀ p ∈ ps, Flag.id ∈ p.flags ↔ p.isMarked = true)
    (apart : ps.Pairwise Property.Apart) (marked : ps[i].isMarked = true) :
    (⟨entity, 0, 0, ps, some i, .unassigned⟩ : Entity).WellFormed where
  nonempty := List.ne_nil_of_length_pos (Nat.zero_lt_of_lt hi)
  identity := by
    have hasFlag := (flagged _ (List.getElem_mem hi)).2 marked
    refine ⟨i, hi, rfl, ?_, ?_⟩
    · exact List.count_eq_one_of_mem (wf _ (List.getElem_mem hi)).flags_nodup hasFlag
    · intro j hj other hasFlag
      exact other (Property.eq_of_isMarked apart hj hi
        ((flagged _ (List.getElem_mem hj)).1 hasFlag) marked)
  storageNames := List.pairwise_map.2 (apart.imp And.left)
  properties := wf
  id := rfl
  uid := rfl
  lastPropertyId := rfl

/-- Well-formed properties that are apart make an entity with any of them as identity if none
has the flag of one. -/
theorem Entity.wellFormed_of_unmarked {entity : String} {ps : List Property} {i : Nat}
    (hi : i < ps.length) (wf : ∀ p ∈ ps, p.WellFormed) (noFlag : ∀ p ∈ ps, Flag.id ∉ p.flags)
    (apart : ps.Pairwise Property.Apart) :
    (⟨entity, 0, 0, ps.modify i (·.addFlag .id), some i, .unassigned⟩ : Entity).WellFormed := by
  have names : (ps.map fun p => lowercaseString p.storageName).Nodup :=
    List.pairwise_map.2 (apart.imp And.left)
  obtain ⟨before, p, after, split, -, modified⟩ := List.exists_of_modify (·.addFlag .id) hi
  have hp : p ∈ ps := by simp [split]
  refine ⟨?_, ⟨i, by simpa using hi, rfl, ?_, ?_⟩, ?_, ?_, rfl, rfl, rfl⟩
  · simpa using List.ne_nil_of_length_pos (Nat.zero_lt_of_lt hi)
  · have none := List.count_eq_zero.2 (noFlag _ (List.getElem_mem hi))
    simp [Property.addFlag, none]
  · intro j hj other
    simp only [List.length_modify] at hj
    simp only [List.getElem_modify, Ne.symm other, if_false]
    exact noFlag _ (List.getElem_mem hj)
  · rw [modified]
    rw [split] at names
    simpa [Property.addFlag] using names
  · intro q hq
    rw [modified] at hq
    rcases List.mem_append.1 hq with hq | hq
    · exact wf q (by simp [split, hq])
    · rcases List.mem_cons.1 hq with rfl | hq
      · exact (wf p hp).addFlag_id (noFlag p hp)
      · exact wf q (by simp [split, hq])

/-- An entity of properties that are well formed and apart is well formed. -/
theorem Entity.Finishes.wellFormed {e : Entity} {entity : String} {ps : List Property} {i : Nat}
    (finishes : e.Finishes entity ps i) (wf : ∀ p ∈ ps, p.WellFormed)
    (flagged : ∀ p ∈ ps, Flag.id ∈ p.flags ↔ p.isMarked = true)
    (apart : ps.Pairwise Property.Apart) : e.WellFormed := by
  rw [finishes.eq]
  cases anyMarked : ps.any Property.isMarked with
  | true =>
      have first := List.findIdx?_eq_some_iff_getElem.1 (finishes.marked anyMarked)
      exact Entity.wellFormed_of_marked finishes.inRange wf flagged apart first.2.1
  | false =>
      have noFlag : ∀ p ∈ ps, Flag.id ∉ p.flags := by
        intro p hp hasFlag
        exact List.any_eq_false.1 anyMarked p hp ((flagged p hp).1 hasFlag)
      exact Entity.wellFormed_of_unmarked finishes.inRange wf noFlag apart

/-- A build ends with a well-formed entity. -/
theorem wellFormed_of_buildEntity {entity : String} {fields : List FieldGroup} {e : Entity}
    (built : (buildEntity entity fields).result = .ok e) : e.WellFormed := by
  obtain ⟨pass, i, finishes⟩ := buildEntity_ok built
  refine finishes.wellFormed ?_ ?_ pass.pairwise_apart
  · intro p hp
    obtain ⟨f, -, becomes⟩ := exists_becomes hp
    exact becomes.wellFormed
  · intro p hp
    obtain ⟨f, -, becomes⟩ := exists_becomes hp
    exact becomes.id_mem_flags

/-! ## Sequences of loads -/

/-- All entities of a binding are well formed. -/
def Binding.WellFormed (b : Binding) : Prop := ∀ e ∈ b.entities, e.WellFormed

/-- A specification adds nothing to a binding but what its struct is built to. -/
theorem Walk.mem_visitSpec {w : Walk} {s : Spec} {e : Entity}
    (he : e ∈ (w.visitSpec s).binding.entities) :
    e ∈ w.binding.entities ∨ ∃ named : NamedStruct, named.build = .ok e := by
  cases hs : s.struct? with
  | none =>
      rw [(w.visitSpec_of_other hs).1] at he
      exact .inl he
  | some named =>
      have step := w.visitSpec_of_struct hs
      cases hb : named.build with
      | error err =>
          rw [hb] at step
          rw [step.1] at he
          exact .inl he
      | ok built =>
          rw [hb] at step
          rw [step.1] at he
          rcases List.mem_append.1 he with old | new
          · exact .inl old
          · exact .inr ⟨named, List.mem_singleton.1 new ▸ hb⟩

/-- The bindings that a sequence of loads goes through: the one that it starts with, those
after each specification of a source unit, and those of the loads that follow. -/
def Binding.trace (b : Binding) : List SourceUnit → List Binding
  | [] => [b]
  | u :: rest =>
      b :: (List.range (u.specs.length + 1)).map (fun n => (b.walk u n).binding) ++
        (b.load u).binding.trace rest

/-- So does a walk, at each of its points. -/
theorem Binding.mem_walk {b : Binding} {u : SourceUnit} {e : Entity} :
    ∀ {n : Nat}, e ∈ (b.walk u n).binding.entities →
      e ∈ b.entities ∨ ∃ named : NamedStruct, named.build = .ok e
  | 0, he => .inl he
  | n + 1, he => by
      rw [b.walk_succ] at he
      split at he
      · rcases Walk.mem_visitSpec he with before | built
        · exact Binding.mem_walk before
        · exact .inr built
      · exact Binding.mem_walk he

/-- An entity of a binding that a sequence of loads goes through was there at the start, or a
struct was built to it. -/
theorem Binding.mem_trace {e : Entity} :
    ∀ {units : List SourceUnit} {start b : Binding}, b ∈ start.trace units → e ∈ b.entities →
      e ∈ start.entities ∨ ∃ named : NamedStruct, named.build = .ok e
  | [], start, b, hb, he => by
      rw [List.mem_singleton.1 hb] at he
      exact .inl he
  | u :: rest, start, b, hb, he => by
      rw [Binding.trace, List.mem_append, List.mem_cons, List.mem_map] at hb
      rcases hb with (rfl | ⟨n, -, rfl⟩) | hb
      · exact .inl he
      · exact Binding.mem_walk he
      · rcases Binding.mem_trace hb he with loaded | built
        · rw [(start.load_eq_walk u).1] at loaded
          exact Binding.mem_walk loaded
        · exact .inr built

/-- A sequence of loads keeps the entities well formed at all times. -/
theorem Binding.WellFormed.trace (units : List SourceUnit) {start : Binding}
    (wf : start.WellFormed) : ∀ b ∈ start.trace units, b.WellFormed := by
  intro b hb e he
  rcases Binding.mem_trace hb he with old | ⟨named, built⟩
  · exact wf e old
  · exact wellFormed_of_buildEntity built

/-- Whatever source units are loaded one after the other into a binding without entities, its
entities are well formed at every point, those that a failed load leaves behind included. -/
theorem wellFormed_throughout {start : Binding} (fresh : start.entities = [])
    (units : List SourceUnit) :
    ∀ b ∈ start.trace units, ∀ e ∈ b.entities, e.WellFormed := by
  refine Binding.WellFormed.trace units ?_
  intro e he
  rw [fresh] at he
  cases he

/-- A source unit with a struct that becomes an entity and one that has no fields. -/
def halfBuilt : SourceUnit :=
  ⟨"shop", [.group [
    .type "Order" (.struct [
      ⟨["ID"], .ident "uint64", none⟩,
      ⟨["Customer"], .ident "uint64", some "\x60link:\"Customer\"\x60"⟩]),
    .type "Empty" (.struct [])]]⟩

/-- The entity that is left behind by the load of `halfBuilt`, which fails, is well formed. -/
theorem wellFormed_throughout_halfBuilt :
    (Binding.new "").entities = [] ∧
      ((Binding.new "").load halfBuilt).failure = some (.emptyEntity "Empty") ∧
      ((Binding.new "").load halfBuilt).binding.entities.map Entity.name = ["Order"] ∧
      ∀ b ∈ (Binding.new "").trace [halfBuilt], ∀ e ∈ b.entities, e.WellFormed :=
  ⟨rfl, by decide +kernel, by decide +kernel, wellFormed_throughout rfl [halfBuilt]⟩

end EntityBinding
