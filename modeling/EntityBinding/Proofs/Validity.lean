import EntityBinding.Proofs.WellFormed
import Mathlib.Data.List.Pairwise

/-!
# Structs that can be built

The last three checks of a field look at the fields before it, and a draft carries what they
need along.  Taken over a whole struct the checks say less than that.  All fields pass if and
only if each of them is sound by itself (`FieldGroup.Sound`) and the properties they become are
apart from each other (`allPass_iff`), and neither condition knows an order.

The same is true of the identity.  The properties that may be it are those that are marked, or
the candidates if none is (`identityChoices`), and a build ends with an entity if and only if
there is exactly one of them (`buildEntity_result_eq_ok_iff`).  The entity consists of the
properties that the fields become by themselves, except that its identity has got the flag of
one (`Property.beside`).
-/

namespace EntityBinding

open Text (lowercaseString)

/-! ## Fields by themselves -/

/-- A field passes the checks that look at no field but itself. -/
structure FieldGroup.Sound (f : FieldGroup) : Prop where
  /-- The field declares one name. -/
  names : f.names.length = 1
  /-- Its tag can be read. -/
  tag : ∃ a, Tag.parseOptional f.tag = .ok a
  /-- It has a type and gets its flags, if it is stored. -/
  property : f.stored?.isSome = true → f.property?.isSome = true
  /-- It is not given an empty storage name, if it is stored. -/
  storageName : ∀ name a, f.stored? = some (name, a) → a.get? "nameindb" ≠ some ""

/-- The property of a field comes from a type that is resolved and from flags that are derived. -/
theorem FieldGroup.derived_of_property? {f : FieldGroup} {p : Property}
    (h : f.property? = some p) :
    ∃ r, resolveType f.type p.annotations = .ok r ∧
      (Property.declare p.name p.annotations r).deriveFlags.failure = none := by
  have stored := FieldGroup.stored?_of_property? h
  rw [property?] at h
  simp only [stored] at h
  cases resolved : resolveType f.type p.annotations with
  | error cause => simp [resolved] at h
  | ok r =>
      refine ⟨r, rfl, ?_⟩
      by_contra failed
      simp [resolved, failed] at h

theorem FieldGroup.Passes.sound {f : FieldGroup} {entity : String} {earlier : List FieldGroup}
    (pass : f.Passes entity earlier) : f.Sound where
  names := by
    have names := pass .names
    by_contra other
    simp [Check.error?, other] at names
  tag := by
    have names := pass .names
    have tag := pass .tag
    by_cases one : f.names.length = 1
    · obtain ⟨name, single⟩ := List.length_eq_one_iff.1 one
      cases read : Tag.parseOptional f.tag with
      | ok a => exact ⟨a, rfl⟩
      | error cause => simp [Check.error?, single, read] at tag
    · simp [Check.error?, one] at names
  property := pass.property?_isSome
  storageName := by
    intro name a stored empty
    have check := pass .storageName
    simp [Check.error?, stored, Check.storedError?, empty] at check

/-- A sound field passes every check if its property is apart from those of the fields before
it. -/
theorem FieldGroup.Sound.passes {f : FieldGroup} {entity : String} {earlier : List FieldGroup}
    (sound : f.Sound) (read : AllRead earlier)
    (apart : ∀ p, f.property? = some p → ∀ q ∈ earlier.filterMap FieldGroup.property?,
      q.Apart p) :
    f.Passes entity earlier := by
  -- Every check but the first two is made of the property that the field is stored as.
  have ofProperty : ∀ c : Check,
      (∀ p, f.property? = some p →
        c.storedError? entity earlier f.type p.name p.annotations = none) →
      (f.stored?.bind fun s => c.storedError? entity earlier f.type s.1 s.2) = none := by
    intro c h
    cases stored : f.stored? with
    | none => rfl
    | some s =>
        obtain ⟨p, hp⟩ := Option.isSome_iff_exists.1 (sound.property (by simp [stored]))
        have same := stored.symm.trans (FieldGroup.stored?_of_property? hp)
        rw [Option.some.inj same]
        exact h p hp
  intro c
  cases c with
  | names => simp [Check.error?, sound.names]
  | tag =>
      obtain ⟨name, single⟩ := List.length_eq_one_iff.1 sound.names
      obtain ⟨a, tag⟩ := sound.tag
      simp [Check.error?, single, tag]
  | type =>
      refine ofProperty .type fun p hp => ?_
      obtain ⟨r, resolved, -⟩ := FieldGroup.derived_of_property? hp
      simp [Check.storedError?, resolved]
  | flags =>
      refine ofProperty .flags fun p hp => ?_
      obtain ⟨r, resolved, derived⟩ := FieldGroup.derived_of_property? hp
      simp [Check.storedError?, resolved, derived]
  | identity =>
      refine ofProperty .identity fun p hp => ?_
      simp only [Check.storedError?]
      split
      next marked =>
        have noneMarked : markedNames earlier = [] := by
          rw [read.markedNames, List.map_eq_nil_iff, List.filter_eq_nil_iff]
          exact fun q hq qMarked => (apart p hp q hq).2 ⟨qMarked, marked⟩
        rw [noneMarked]
        rfl
      next => rfl
  | storageName =>
      refine ofProperty .storageName fun p hp => ?_
      have notEmpty := sound.storageName _ _ (FieldGroup.stored?_of_property? hp)
      simp [Check.storedError?, notEmpty]
  | uniqueName =>
      refine ofProperty .uniqueName fun p hp => ?_
      have free : lowercaseString (storageNameOf p.name p.annotations) ∉ takenNames earlier := by
        rw [read.takenNames, ← (FieldGroup.becomes_of_property? hp).storageName]
        intro taken
        obtain ⟨q, hq, same⟩ := List.mem_map.1 taken
        exact (apart p hp q hq).1 same
      simp [Check.storedError?, free]

/-! ## Fields beside each other -/

theorem Property.Apart.symm {p q : Property} (h : p.Apart q) : q.Apart p :=
  ⟨h.1.symm, fun both => h.2 both.symm⟩

instance : Std.Symm Property.Apart := ⟨fun _ _ => Property.Apart.symm⟩

theorem Property.Apart.irrefl (p : Property) : ¬p.Apart p := fun h => h.1 rfl

/-- All fields of a struct pass if and only if each is sound and their properties are apart. -/
theorem allPass_iff {entity : String} {fields : List FieldGroup} :
    AllPass entity fields ↔
      (∀ f ∈ fields, f.Sound) ∧
        (fields.filterMap FieldGroup.property?).Pairwise Property.Apart := by
  constructor
  · intro pass
    refine ⟨fun f hf => ?_, pass.pairwise_apart⟩
    obtain ⟨before, after, rfl⟩ := List.append_of_mem hf
    exact (pass before f after rfl).sound
  · rintro ⟨sound, apart⟩ before f after rfl
    have read : AllRead before := fun g hg => (sound g (List.mem_append_left _ hg)).property
    refine (sound f (by simp)).passes read fun p hp q hq => ?_
    rw [List.filterMap_append, List.filterMap_cons_some hp] at apart
    exact (List.pairwise_append.1 apart).2.2 q hq p List.mem_cons_self

/-- Two fields of a struct that become the same property are one. -/
theorem eq_of_property?_eq {fields : List FieldGroup} {f g : FieldGroup} {p : Property}
    (apart : (fields.filterMap FieldGroup.property?).Pairwise Property.Apart)
    (hf : f ∈ fields) (hg : g ∈ fields) (fp : f.property? = some p) (gp : g.property? = some p) :
    f = g := by
  rw [List.pairwise_filterMap] at apart
  have : Std.Symm fun f g : FieldGroup =>
      ∀ p, f.property? = some p → ∀ q, g.property? = some q → p.Apart q :=
    ⟨fun _ _ h q hq p hp => (h p hp q hq).symm⟩
  by_contra different
  exact Property.Apart.irrefl p (apart.forall hf hg different p fp p gp)

/-! ## The identity -/

/-- The properties that may be the identity: those that are marked, or the candidates if none
is. -/
def identityChoices (ps : List Property) : List Property :=
  if ps.any Property.isMarked then ps.filter Property.isMarked
  else ps.filter Entity.isIdentityCandidate

/-- The property as an identity, which has the flag of one.  A marked one has it already. -/
def Property.designated (p : Property) : Property := if p.isMarked then p else p.addFlag .id

/-- The property as it stands in an entity with a certain identity. -/
def Property.beside (p identity : Property) : Property :=
  if p = identity then p.designated else p

theorem Property.designated_storageName (p : Property) :
    p.designated.storageName = p.storageName := by
  rw [designated]
  split <;> rfl

theorem Property.beside_storageName (p identity : Property) :
    (p.beside identity).storageName = p.storageName := by
  rw [beside]
  split
  · exact p.designated_storageName
  · rfl

theorem Property.beside_self (p : Property) : p.beside p = p.designated := if_pos rfl

/-- The choices are some of the properties. -/
theorem mem_of_mem_identityChoices {ps : List Property} {p : Property}
    (h : p ∈ identityChoices ps) : p ∈ ps := by
  rw [identityChoices] at h
  split at h
  · exact List.mem_of_mem_filter h
  · exact List.mem_of_mem_filter h

theorem identityChoices_of_marked {ps : List Property} {p : Property} (hp : p ∈ ps)
    (marked : p.isMarked = true) : identityChoices ps = ps.filter Property.isMarked :=
  if_pos (List.any_eq_true.2 ⟨p, hp, marked⟩)

theorem identityChoices_of_unmarked {ps : List Property}
    (unmarked : ∀ p ∈ ps, p.isMarked = false) :
    identityChoices ps = ps.filter Entity.isIdentityCandidate := by
  rw [identityChoices, if_neg]
  simpa using unmarked

/-- The candidates of a draft are those of its properties, with their positions. -/
theorem map_fst_identityCandidates (e : Entity) :
    e.identityCandidates.map Prod.fst = e.properties.filter Entity.isIdentityCandidate := by
  rw [Entity.identityCandidates]
  show (e.properties.zipIdx.filter (Entity.isIdentityCandidate ∘ Prod.fst)).map Prod.fst = _
  rw [← List.filter_map, List.zipIdx_map_fst]

theorem nodup_of_pairwise_apart {ps : List Property} (apart : ps.Pairwise Property.Apart) :
    ps.Nodup := by
  refine List.Pairwise.imp ?_ apart
  rintro p q h rfl
  exact Property.Apart.irrefl p h

/-- The only marked property of several that are apart. -/
theorem filter_isMarked_eq_singleton {ps : List Property} (apart : ps.Pairwise Property.Apart)
    {p : Property} (hp : p ∈ ps) (marked : p.isMarked = true) :
    ps.filter Property.isMarked = [p] := by
  obtain ⟨before, after, rfl⟩ := List.append_of_mem hp
  obtain ⟨-, tail, across⟩ := List.pairwise_append.1 apart
  have noneBefore : before.filter Property.isMarked = [] := by
    rw [List.filter_eq_nil_iff]
    exact fun q hq qMarked => (across q hq p List.mem_cons_self).2 ⟨qMarked, marked⟩
  have noneAfter : after.filter Property.isMarked = [] := by
    rw [List.filter_eq_nil_iff]
    exact fun q hq qMarked => ((List.pairwise_cons.1 tail).1 q hq).2 ⟨marked, qMarked⟩
  rw [List.filter_append, List.filter_cons_of_pos marked, noneBefore, noneAfter, List.nil_append]

/-- Beside a marked identity all properties stay as they are. -/
theorem map_beside_of_marked (ps : List Property) {p : Property} (marked : p.isMarked = true) :
    ps.map (·.beside p) = ps := by
  refine List.map_id'' (fun q => ?_) ps
  rw [Property.beside]
  split
  next same => rw [same, Property.designated, if_pos marked]
  next => rfl

/-- Beside an identity that is not marked the identity alone gains a flag. -/
theorem map_beside_of_unmarked {ps : List Property} (nodup : ps.Nodup) {p : Property} {i : Nat}
    (at_i : ps[i]? = some p) (unmarked : p.isMarked = false) :
    ps.map (·.beside p) = ps.modify i (·.addFlag .id) := by
  obtain ⟨hi, rfl⟩ := List.getElem?_eq_some_iff.1 at_i
  refine List.ext_getElem (by simp) fun j hj hj' => ?_
  have hj : j < ps.length := by simpa using hj
  rw [List.getElem_map, List.getElem_modify, Property.beside]
  by_cases same : i = j
  · subst same
    rw [if_pos rfl, if_pos rfl, Property.designated, if_neg (by simp [unmarked])]
  · rw [if_neg same, if_neg]
    exact fun equal => same ((nodup.getElem_inj_iff).1 equal).symm

/-! ## Builds -/

namespace Draft

/-- The only choice for the identity finishes a draft. -/
theorem finish_of_choice {entity : String} {ps : List Property} {p : Property} {i : Nat}
    (apart : ps.Pairwise Property.Apart) (choice : identityChoices ps = [p])
    (at_i : ps[i]? = some p) :
    (holding entity ps).finish.result =
      .ok ⟨entity, 0, 0, ps.map (·.beside p), some i, .unassigned⟩ := by
  have nodup := nodup_of_pairwise_apart apart
  obtain ⟨hi, rfl⟩ := List.getElem?_eq_some_iff.1 at_i
  have nonempty : ps ≠ [] := List.ne_nil_of_mem (List.getElem_mem hi)
  rw [finish_holding, if_neg nonempty]
  cases found : ps.findIdx? Property.isMarked with
  | some j =>
      obtain ⟨hj, marked, -⟩ := List.findIdx?_eq_some_iff_getElem.1 found
      have first := filter_isMarked_eq_singleton apart (List.getElem_mem hj) marked
      rw [identityChoices_of_marked (List.getElem_mem hj) marked, first] at choice
      have same := (List.cons.inj choice).1
      rw [same] at marked
      rw [map_beside_of_marked ps marked, (nodup.getElem_inj_iff).1 same]
  | none =>
      have unmarked := List.findIdx?_eq_none_iff.1 found
      have candidates := map_fst_identityCandidates (holding entity ps).entity
      rw [identityChoices_of_unmarked unmarked] at choice
      obtain ⟨⟨p, j⟩, only, rfl⟩ := List.map_eq_singleton_iff.1 (candidates.trans choice)
      have candidate : (ps[i], j) ∈ (holding entity ps).entity.identityCandidates := by
        rw [only]
        exact List.mem_singleton_self _
      obtain ⟨hj, same⟩ := List.getElem?_eq_some_iff.1 (Entity.mem_identityCandidates.1 candidate).1
      obtain rfl := (nodup.getElem_inj_iff).1 same
      rw [only, map_beside_of_unmarked nodup at_i (unmarked _ (List.getElem_mem hi))]

/-- A draft that is finished has one choice for its identity. -/
theorem choice_of_finish {entity : String} {ps : List Property} {e : Entity}
    (apart : ps.Pairwise Property.Apart) (finished : (holding entity ps).finish.result = .ok e) :
    ∃ p, identityChoices ps = [p] := by
  rw [finish_holding] at finished
  by_cases empty : ps = []
  · rw [if_pos empty] at finished
    cases finished
  rw [if_neg empty] at finished
  cases found : ps.findIdx? Property.isMarked with
  | some i =>
      obtain ⟨hi, marked, -⟩ := List.findIdx?_eq_some_iff_getElem.1 found
      refine ⟨ps[i], ?_⟩
      rw [identityChoices_of_marked (List.getElem_mem hi) marked,
        filter_isMarked_eq_singleton apart (List.getElem_mem hi) marked]
  | none =>
      have candidates := map_fst_identityCandidates (holding entity ps).entity
      rw [identityChoices_of_unmarked (List.findIdx?_eq_none_iff.1 found)]
      rw [found] at finished
      cases hc : (holding entity ps).entity.identityCandidates with
      | nil =>
          rw [hc] at finished
          cases finished
      | cons first others =>
          cases others with
          | nil =>
              rw [hc] at candidates
              exact ⟨first.1, candidates.symm⟩
          | cons second more =>
              rw [hc] at finished
              cases finished

theorem finish_holding_eq_ok_iff {entity : String} {ps : List Property} {e : Entity}
    (apart : ps.Pairwise Property.Apart) :
    (holding entity ps).finish.result = .ok e ↔
      ∃ p i, identityChoices ps = [p] ∧ ps[i]? = some p ∧
        e = ⟨entity, 0, 0, ps.map (·.beside p), some i, .unassigned⟩ := by
  constructor
  · intro finished
    obtain ⟨p, choice⟩ := choice_of_finish apart finished
    have hp : p ∈ identityChoices ps := by
      rw [choice]
      exact List.mem_singleton_self p
    obtain ⟨i, at_i⟩ := List.getElem?_of_mem (mem_of_mem_identityChoices hp)
    rw [finish_of_choice apart choice at_i] at finished
    exact ⟨p, i, choice, at_i, (Except.ok.inj finished).symm⟩
  · rintro ⟨p, i, choice, at_i, rfl⟩
    exact finish_of_choice apart choice at_i

end Draft

/-- A build ends with an entity if and only if every field is sound, the properties are apart
and just one of them may be the identity. -/
theorem buildEntity_result_eq_ok_iff {entity : String} {fields : List FieldGroup} {e : Entity} :
    (buildEntity entity fields).result = .ok e ↔
      (∀ f ∈ fields, f.Sound) ∧
        (fields.filterMap FieldGroup.property?).Pairwise Property.Apart ∧
        ∃ p i, identityChoices (fields.filterMap FieldGroup.property?) = [p] ∧
          (fields.filterMap FieldGroup.property?)[i]? = some p ∧
          e = ⟨entity, 0, 0, (fields.filterMap FieldGroup.property?).map (·.beside p), some i,
            .unassigned⟩ := by
  constructor
  · intro built
    have pass := (buildEntity_ok built).1
    obtain ⟨sound, apart⟩ := allPass_iff.1 pass
    rw [buildEntity_result_of_allPass pass] at built
    exact ⟨sound, apart, (Draft.finish_holding_eq_ok_iff apart).1 built⟩
  · rintro ⟨sound, apart, identity⟩
    rw [buildEntity_result_of_allPass (allPass_iff.2 ⟨sound, apart⟩)]
    exact (Draft.finish_holding_eq_ok_iff apart).2 identity

end EntityBinding
