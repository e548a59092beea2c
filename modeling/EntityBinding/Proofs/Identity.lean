import EntityBinding.Proofs.Build

/-!
# The identity of an entity

A draft with all its fields is finished by its identity, which is the property that is marked
or else the only candidate (`Draft.finish_holding`).  A draft without properties, without a
candidate or with several of them ends in an error of the entity as a whole.

`buildEntity_decided_by_checks` puts the checks of the fields and the choice of the identity
together to what a build comes to.
-/

namespace EntityBinding

/-- A change at the position behind some elements. -/
theorem modify_append_cons {α : Type} (f : α → α) (x : α) (after : List α) : ∀ before : List α,
    (before ++ x :: after).modify before.length f = before ++ f x :: after
  | [] => rfl
  | y :: before => congrArg (y :: ·) (modify_append_cons f x after before)

/-! ## Candidates -/

/-- The candidates are the properties that could be an identity, at their positions. -/
theorem Entity.mem_identityCandidates {e : Entity} {p : Property} {i : Nat} :
    (p, i) ∈ e.identityCandidates ↔ e.properties[i]? = some p ∧ isIdentityCandidate p = true := by
  simp only [identityCandidates, List.mem_filter, List.mk_mem_zipIdx_iff_getElem?]

/-- What the search for an unmarked identity comes to. -/
theorem Entity.inferIdentity_result (e : Entity) :
    e.inferIdentity.result =
      match e.identityCandidates with
      | [] => .error (.missingId e.name)
      | [(_, i)] => .ok { e with
          properties := e.properties.modify i (·.addFlag .id)
          identity := some i }
      | (p, _) :: (q, _) :: _ => .error (.ambiguousId e.name p.name q.name) := by
  rw [inferIdentity]
  cases hc : e.identityCandidates with
  | nil => rfl
  | cons first others =>
      obtain ⟨p, i⟩ := first
      cases others with
      | nil =>
          have candidate : (p, i) ∈ e.identityCandidates := by
            rw [hc]
            exact List.mem_singleton_self _
          obtain ⟨hi, -⟩ := List.getElem?_eq_some_iff.1 (mem_identityCandidates.1 candidate).1
          have inRange : i < (e.properties.modify i (·.addFlag .id)).length := by
            rw [List.length_modify]
            exact hi
          show Except.ok ((e.modify i (·.addFlag .id)).setIdentity i) = _
          rw [setIdentity, modify, if_pos inRange]
      | cons second more => rfl

/-! ## The end of a build -/

namespace Draft

variable {entity : String} {ps : List Property}

/-- A draft with a marked property is finished as it is. -/
theorem finish_of_marked {p : Property} (hp : p ∈ ps) (marked : p.isMarked = true) :
    (holding entity ps).finish = pure (holding entity ps).entity := by
  have found : (ps.find? Property.isMarked).isNone = false := by
    rw [Option.isNone_eq_false_iff, List.find?_isSome]
    exact ⟨p, hp, marked⟩
  have nonempty : ps.isEmpty = false := by
    rw [List.isEmpty_eq_false_iff]
    exact List.ne_nil_of_mem hp
  rw [finish, identityProperty?_holding, found]
  simp [holding, nonempty]

/-- A draft without a marked property infers its identity. -/
theorem finish_of_unmarked (nonempty : ps ≠ []) (unmarked : ∀ p ∈ ps, p.isMarked = false) :
    (holding entity ps).finish = (holding entity ps).entity.inferIdentity := by
  have notFound : ps.find? Property.isMarked = none := by
    rw [List.find?_eq_none]
    intro p hp
    rw [unmarked p hp]
    exact Bool.false_ne_true
  rw [finish, identityProperty?_holding, notFound]
  simp [holding, nonempty]

/-- What a draft with all its fields is finished to. -/
theorem finish_holding (entity : String) (ps : List Property) :
    (holding entity ps).finish.result =
      if ps = [] then
        .error (.emptyEntity entity)
      else
        match ps.findIdx? Property.isMarked with
        | some i => .ok ⟨entity, 0, 0, ps, some i, .unassigned⟩
        | none =>
            match (holding entity ps).entity.identityCandidates with
            | [] => .error (.missingId entity)
            | [(_, i)] =>
                .ok ⟨entity, 0, 0, ps.modify i (·.addFlag .id), some i, .unassigned⟩
            | (p, _) :: (q, _) :: _ => .error (.ambiguousId entity p.name q.name) := by
  by_cases empty : ps = []
  · rw [if_pos empty, empty]
    rfl
  · rw [if_neg empty]
    cases marked : ps.findIdx? Property.isMarked with
    | some i =>
        obtain ⟨hi, isMarked, -⟩ := List.findIdx?_eq_some_iff_getElem.1 marked
        rw [finish_of_marked (List.getElem_mem hi) isMarked]
        show Except.ok (holding entity ps).entity = _
        rw [holding, marked]
    | none =>
        rw [finish_of_unmarked empty (List.findIdx?_eq_none_iff.1 marked)]
        exact Entity.inferIdentity_result _

end Draft

/-- `e.Finishes entity ps i` says that the entity `e` has the name `entity` and consists of the
properties `ps`, of which the one at `i` is the identity. -/
structure Entity.Finishes (e : Entity) (entity : String) (ps : List Property) (i : Nat) :
    Prop where
  /-- The identity is one of the properties. -/
  inRange : i < ps.length
  /-- It is the first property that is marked, if there is one. -/
  marked : ps.any Property.isMarked = true → ps.findIdx? Property.isMarked = some i
  /-- An identity that is not marked gets its flag at the end. -/
  eq : e = ⟨entity, 0, 0,
    if ps.any Property.isMarked then ps else ps.modify i (·.addFlag .id), some i, .unassigned⟩

/-- A draft with all its fields is finished with an identity, or ends in an error of the entity
as a whole. -/
theorem Draft.finish_holding_cases (entity : String) (ps : List Property) :
    (∃ e i, (holding entity ps).finish.result = .ok e ∧ e.Finishes entity ps i) ∨
      ∃ err, (holding entity ps).finish.result = .error err ∧ err.isEntityLevel = true := by
  rw [finish_holding]
  by_cases empty : ps = []
  · rw [if_pos empty]
    exact .inr ⟨_, rfl, rfl⟩
  · rw [if_neg empty]
    cases marked : ps.findIdx? Property.isMarked with
    | some i =>
        obtain ⟨hi, isMarked, -⟩ := List.findIdx?_eq_some_iff_getElem.1 marked
        have anyMarked : ps.any Property.isMarked = true :=
          List.any_eq_true.2 ⟨_, List.getElem_mem hi, isMarked⟩
        exact .inl ⟨_, i, rfl, hi, fun _ => marked, by rw [if_pos anyMarked]⟩
    | none =>
        have noneMarked : ps.any Property.isMarked = false := by
          rw [List.any_eq_false]
          intro p hp
          rw [List.findIdx?_eq_none_iff.1 marked p hp]
          exact Bool.false_ne_true
        cases hc : (holding entity ps).entity.identityCandidates with
        | nil => exact .inr ⟨_, rfl, rfl⟩
        | cons first others =>
            obtain ⟨p, i⟩ := first
            cases others with
            | cons second more => exact .inr ⟨_, rfl, rfl⟩
            | nil =>
                have candidate : (p, i) ∈ (holding entity ps).entity.identityCandidates := by
                  rw [hc]
                  exact List.mem_singleton_self _
                obtain ⟨hi, -⟩ :=
                  List.getElem?_eq_some_iff.1 (Entity.mem_identityCandidates.1 candidate).1
                refine .inl ⟨_, i, rfl, hi, ?_, by rw [noneMarked]; rfl⟩
                rw [noneMarked]
                intro h
                cases h

/-! ## Builds -/

/-- A build whose fields all pass ends as their draft does. -/
theorem buildEntity_result_of_allPass {entity : String} {fields : List FieldGroup}
    (pass : AllPass entity fields) :
    (buildEntity entity fields).result = (Draft.ofFields entity fields).finish.result := by
  rw [buildEntity, Outcome.result_bind_of_ok (Draft.addFields_new_of_allPass pass)]
  cases finished : (Draft.ofFields entity fields).finish.result with
  | error e => rw [Outcome.result_bind_of_error finished]
  | ok e =>
      rw [Outcome.result_bind_of_ok finished]
      rfl

/-- A build ends with the error of the first field that does not pass. -/
theorem buildEntity_result_of_offends {entity : String} {before after : List FieldGroup}
    {f : FieldGroup} {c : Check} {e : DiscoveryError} (pass : AllPass entity before)
    (offends : f.Offends entity before c e) :
    (buildEntity entity (before ++ f :: after)).result = .error e := by
  rw [buildEntity, Outcome.result_bind_of_error (Draft.addFields_new_of_offends pass offends)]

/-- A build with fields that all pass ends with an entity, or in an error of the entity as a
whole. -/
theorem buildEntity_cases_of_allPass {entity : String} {fields : List FieldGroup}
    (pass : AllPass entity fields) :
    (∃ e i, (buildEntity entity fields).result = .ok e ∧
        e.Finishes entity (fields.filterMap FieldGroup.property?) i) ∨
      ∃ err, (buildEntity entity fields).result = .error err ∧ err.isEntityLevel = true := by
  rw [buildEntity_result_of_allPass pass]
  exact Draft.finish_holding_cases entity _

/-- A build that ends with an entity has read fields that all pass. -/
theorem buildEntity_ok {entity : String} {fields : List FieldGroup} {e : Entity}
    (built : (buildEntity entity fields).result = .ok e) :
    AllPass entity fields ∧
      ∃ i, e.Finishes entity (fields.filterMap FieldGroup.property?) i := by
  rcases allPass_or_offends entity fields with pass | ⟨before, f, after, c, err, rfl, pass, offends⟩
  · rcases buildEntity_cases_of_allPass pass with ⟨e', i, same, finishes⟩ | ⟨err, failed, -⟩
    · rw [same] at built
      cases built
      exact ⟨pass, i, finishes⟩
    · rw [failed] at built
      cases built
  · rw [buildEntity_result_of_offends pass offends] at built
    cases built

/-- A build that fails does so with the error of a field, or, if all fields pass, with that of
the entity as a whole. -/
theorem buildEntity_error {entity : String} {fields : List FieldGroup} {err : DiscoveryError}
    (failed : (buildEntity entity fields).result = .error err) :
    err.isFieldLevel = true ∨ (err.isEntityLevel = true ∧ AllPass entity fields) := by
  rcases allPass_or_offends entity fields with pass | ⟨before, f, after, c, e, rfl, pass, offends⟩
  · rcases buildEntity_cases_of_allPass pass with ⟨e, i, built, -⟩ | ⟨err', same, level⟩
    · rw [built] at failed
      cases failed
    · rw [same] at failed
      cases failed
      exact .inr ⟨level, pass⟩
  · rw [buildEntity_result_of_offends pass offends] at failed
    cases failed
    exact .inl (Check.error?_isFieldLevel offends.1)

/-- What a build comes to is decided by the checks of its fields.  The first check that the
first offending field fails gives the error.  If no field offends, the build ends with an entity
or in an error of the entity as a whole, and no such error comes from anywhere else.  The
properties of the entity are the stored fields, in order, and an identity that no field is
marked as gets its flag. -/
theorem buildEntity_decided_by_checks (entity : String) (fields : List FieldGroup) :
    (AllPass entity fields ∨ ∃ before f after c e, fields = before ++ f :: after ∧
      AllPass entity before ∧ f.Offends entity before c e) ∧
    (∀ before f after c e, fields = before ++ f :: after → AllPass entity before →
      f.Offends entity before c e → (buildEntity entity fields).result = .error e) ∧
    (AllPass entity fields → (∃ e, (buildEntity entity fields).result = .ok e) ∨
      ∃ err, (buildEntity entity fields).result = .error err ∧ err.isEntityLevel = true) ∧
    (∀ err, (buildEntity entity fields).result = .error err → err.isEntityLevel = true →
      AllPass entity fields) ∧
    ∀ e, (buildEntity entity fields).result = .ok e →
      AllPass entity fields ∧ e.name = entity ∧
        ∃ ps i, List.Forall₂ FieldGroup.Becomes (fields.filter fun f => f.stored?.isSome) ps ∧
          i < ps.length ∧ e.identity = some i ∧
          e.properties =
            if markedNames fields = [] then ps.modify i (·.addFlag .id) else ps := by
  refine ⟨allPass_or_offends entity fields, ?_, ?_, ?_, ?_⟩
  · rintro before f after c e rfl pass offends
    exact buildEntity_result_of_offends pass offends
  · intro pass
    rcases buildEntity_cases_of_allPass pass with ⟨e, -, built, -⟩ | failed
    · exact .inl ⟨e, built⟩
    · exact .inr failed
  · intro err failed level
    rcases buildEntity_error failed with field | ⟨-, pass⟩
    · rw [DiscoveryError.isEntityLevel_of_isFieldLevel field] at level
      cases level
    · exact pass
  · intro e built
    obtain ⟨pass, i, finishes⟩ := buildEntity_ok built
    have marked : (fields.filterMap FieldGroup.property?).any Property.isMarked = true ↔
        markedNames fields ≠ [] := by
      rw [pass.allRead.markedNames, ne_eq, List.map_eq_nil_iff, List.filter_eq_nil_iff,
        List.any_eq_true]
      simp only [not_forall, not_not, exists_prop]
    refine ⟨pass, by rw [finishes.eq], fields.filterMap FieldGroup.property?, i,
      pass.allRead.becomes, finishes.inRange, by rw [finishes.eq], ?_⟩
    rw [finishes.eq]
    by_cases unmarked : markedNames fields = []
    · rw [if_neg fun h => marked.1 h unmarked, if_pos unmarked]
    · rw [if_pos (marked.2 unmarked), if_neg unmarked]

end EntityBinding
