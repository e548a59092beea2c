import EntityBinding.Proofs.Identity

/-!
# The log of a build

The log is what a reader sees of the events (`Outcome.log`).  What stands in it is told by relations
that follow the declarations: a line for each field of a struct, with a warning before it at most
(`FieldsLog`), and then the lines of the entity (`EntityLog`).  The log of a struct that fails ends
with its last field, or before the line of the field that does not pass (`FailedLog`).

Every build has such a log, and of which kind it is by its result (`buildEntity_log_of_ok`,
`buildEntity_log_of_error`).
-/

namespace EntityBinding

open Text (lowercaseString)

/-! ## Lines -/

/-- A line of the log. -/
structure LogLine where
  /-- The level of the event. -/
  level : Level
  /-- Its message. -/
  message : String
  /-- Its named values. -/
  fields : List (String × Json)

/-- The line of an event. -/
def Event.line (e : Event) : LogLine := ⟨e.level, e.message, e.fields⟩

/-- The lines of the events of a step. -/
def Outcome.log {α : Type} (o : Outcome α) : List LogLine := o.events.map Event.line

namespace LogLine

/-- A transient field was left out. -/
def skipped (entity property : String) : LogLine :=
  ⟨.trace, "skipping transient field",
    [("entity", .string entity), ("property", .string property)]⟩

/-- A field became a property. -/
def accepted (entity : String) (p : Property) : LogLine :=
  ⟨.trace, "accepted property",
    [("entity", .string entity), ("property", .string p.name),
      ("ob_type", .string p.storageType.name)]⟩

/-- A tag asks for an index on values. -/
def valueIndex (property : String) : LogLine :=
  ⟨.warn, "value index requested, the storage engine may not support it",
    [("property", .string property)]⟩

/-- An identity was found without being marked. -/
def inferred (entity : String) (identity : Property) : LogLine :=
  ⟨.debug, "inferred identity property",
    [("entity", .string entity), ("property", .string identity.name)]⟩

/-- An entity is complete. -/
def discovered (e : Entity) : LogLine :=
  ⟨.debug, "discovered entity",
    [("entity", .string e.name), ("properties", .number (Int.ofNat e.properties.length))]⟩

/-- Whether a line has a message. -/
def hasMessage (message : String) (l : LogLine) : Bool := l.message == message

end LogLine

/-! ## Logs -/

/-- The warning for a tag that asks for an index on values. -/
def Annotations.warning (a : Annotations) (property : String) : List LogLine :=
  if (a.get? "index").map lowercaseString = some "value" then [.valueIndex property] else []

/-- The warning for a field.  Its tag is not looked at for it if the field is not stored, or if its
type cannot be resolved. -/
def FieldGroup.warning (f : FieldGroup) : List LogLine :=
  match f.stored? with
  | none => []
  | some (name, a) =>
      match resolveType f.type a with
      | .ok _ => a.warning name
      | .error _ => []

/-- `f.KeptAs p` says that the field `f` is kept as the property `p`.  The flags are left open,
since an identity that is not marked gets its own when all fields have been read. -/
structure FieldGroup.KeptAs (f : FieldGroup) (p : Property) : Prop where
  /-- The field declares the name of the property alone. -/
  names : f.names = [p.name]
  /-- The property has the entries of the tag. -/
  tag : Tag.parseOptional f.tag = .ok p.annotations
  /-- The field is not transient. -/
  stored : p.annotations.contains "transient" = false
  /-- The types and the target are those that the field is resolved to. -/
  types : resolveType f.type p.annotations =
    .ok ⟨p.declaredType, p.storageType, p.bufferType, p.relation⟩

/-- `FieldsLog entity fields ps log` says that `log` tells of the fields one by one, and that the
fields that are not transient are kept as the properties `ps`. -/
inductive FieldsLog (entity : String) : List FieldGroup → List Property → List LogLine → Prop where
  | nil : FieldsLog entity [] [] []
  /-- A transient field is told of as left out. -/
  | skipped {f : FieldGroup} {name : String} {a : Annotations} {fields : List FieldGroup}
      {ps : List Property} {log : List LogLine} (names : f.names = [name])
      (tag : Tag.parseOptional f.tag = .ok a) (transient : a.contains "transient" = true)
      (rest : FieldsLog entity fields ps log) :
      FieldsLog entity (f :: fields) ps (.skipped entity name :: log)
  /-- Any other field is told of as accepted, with its warning before. -/
  | accepted {f : FieldGroup} {p : Property} {fields : List FieldGroup} {ps : List Property}
      {log : List LogLine} (kept : f.KeptAs p) (rest : FieldsLog entity fields ps log) :
      FieldsLog entity (f :: fields) (p :: ps)
        (p.annotations.warning p.name ++ .accepted entity p :: log)

/-- `EntityLog entity fields e log` says that `log` tells how the fields of a struct become the
entity `e`. -/
inductive EntityLog (entity : String) (fields : List FieldGroup) (e : Entity) :
    List LogLine → Prop where
  /-- A marked identity is not told of. -/
  | marked {log : List LogLine} (read : FieldsLog entity fields e.properties log)
      (marked : ∃ p ∈ e.properties, p.annotations.contains "id" = true) :
      EntityLog entity fields e (log ++ [.discovered e])
  /-- Any other identity is told of as inferred. -/
  | inferred {log : List LogLine} {identity : Property}
      (read : FieldsLog entity fields e.properties log)
      (unmarked : ∀ p ∈ e.properties, p.annotations.contains "id" = false)
      (found : e.identityProperty? = some identity) :
      EntityLog entity fields e (log ++ [.inferred entity identity, .discovered e])

/-- `FailedLog entity fields err log` says that `log` tells of a build that fails with the error
`err`. -/
inductive FailedLog (entity : String) (fields : List FieldGroup) (err : DiscoveryError) :
    List LogLine → Prop where
  /-- All fields are told of before an error of the entity as a whole. -/
  | entity {ps : List Property} {log : List LogLine} (read : FieldsLog entity fields ps log)
      (level : err.isEntityLevel = true) : FailedLog entity fields err log
  /-- The fields before the one that does not pass are told of, and of that one nothing but its
  warning. -/
  | field {before after : List FieldGroup} {f : FieldGroup} {ps : List Property}
      {log : List LogLine} {c : Check} (split : fields = before ++ f :: after)
      (read : FieldsLog entity before ps log) (offends : f.Offends entity before c err) :
      FailedLog entity fields err (log ++ f.warning)

/-! ## One field -/

namespace Outcome

variable {α β : Type}

theorem log_bind_of_ok {o : Outcome α} {a : α} (h : o.result = .ok a) (f : α → Outcome β) :
    (o >>= f).log = o.log ++ (f a).log := by
  show (o.andThen f).log = _
  simp [andThen, h, log]

theorem log_bind_of_error {o : Outcome α} {e : DiscoveryError} (h : o.result = .error e)
    (f : α → Outcome β) : (o >>= f).log = o.log := by
  show (o.andThen f).log = _
  simp [andThen, h, log]

end Outcome

/-- The flag rules tell of an index on values alone. -/
theorem Property.deriveFlags_log (p : Property) :
    p.deriveFlags.events.map Event.line = p.annotations.warning p.name := by
  rw [deriveFlags_events, Annotations.warning]
  by_cases h : Flag.indexValue ∈ p.annotations.indexFlags
  · rw [if_pos h, if_pos (Annotations.indexValue_mem_indexFlags.1 h)]
    rfl
  · rw [if_neg h, if_neg fun asks => h (Annotations.indexValue_mem_indexFlags.2 asks)]
    rfl

namespace Draft

variable {d next : Draft}

theorem readProperty_log_of_error (name : String) {type : TypeExpr} {a : Annotations}
    {cause : FieldError} (h : resolveType type a = .error cause) :
    (d.readProperty name type a).log = [] := by
  rw [readProperty]
  rw [h]
  rfl

theorem readProperty_log_of_ok (name : String) {type : TypeExpr} {a : Annotations}
    {r : ResolvedType} (h : resolveType type a = .ok r) :
    (d.readProperty name type a).log = a.warning name := by
  have rules := (Property.declare name a r).deriveFlags_log
  rw [readProperty, h, Outcome.log_bind_of_ok (a := r) rfl]
  dsimp only
  split
  · exact rules
  · exact rules

/-- The storage name is no part of the log. -/
theorem accepted_of_applyStorageName {p named : Property} (h : applyStorageName p = .ok named)
    (entity : String) : LogLine.accepted entity named = LogLine.accepted entity p := by
  rw [applyStorageName] at h
  split at h
  · cases h
    rfl
  · split at h
    · cases h
    · cases h
      rfl

/-- A property is told of if it is accepted. -/
theorem accept_log (d : Draft) (p : Property) :
    (d.accept p).log =
      match (d.accept p).result with
      | .ok _ => [.accepted d.entity.name p]
      | .error _ => [] := by
  rw [accept]
  split
  · rfl
  · cases renamed : applyStorageName p with
    | error cause => rfl
    | ok named =>
        rw [Outcome.log_bind_of_ok (a := named) rfl, Outcome.result_bind_of_ok (a := named) rfl]
        split
        · rfl
        · exact congrArg (fun line => [line]) (accepted_of_applyStorageName renamed _)

/-- A field fails at once, is left out or is read and accepted. -/
theorem addField_cases (d : Draft) (f : FieldGroup) :
    (∃ e, f.stored? = none ∧ d.addField f = .fail e) ∨
    (∃ name a, f.names = [name] ∧ Tag.parseOptional f.tag = .ok a ∧
      a.contains "transient" = true ∧
      d.addField f = ⟨[.transientSkipped d.entity.name name], .ok d⟩) ∨
    ∃ name a, f.stored? = some (name, a) ∧
      d.addField f = d.readProperty name f.type a >>= d.accept := by
  rw [addField]
  split
  next name names =>
    cases tag : Tag.parseOptional f.tag with
    | error cause => exact .inl ⟨_, by simp [FieldGroup.stored?, names, tag], rfl⟩
    | ok a =>
        cases transient : a.contains "transient" with
        | true =>
            refine .inr (.inl ⟨name, a, names, rfl, transient, ?_⟩)
            show (Outcome.mk [] (.ok a)).andThen _ = _
            simp only [Outcome.andThen, transient]
            rfl
        | false =>
            refine .inr (.inr ⟨name, a, by simp [FieldGroup.stored?, names, tag, transient], ?_⟩)
            show (Outcome.mk [] (.ok a)).andThen _ = _
            simp only [Outcome.andThen, transient]
            rfl
  next notOne =>
    refine .inl ⟨_, ?_, rfl⟩
    rw [FieldGroup.stored?]
    split
    next name a names tag => exact absurd names (notOne name)
    next => rfl

/-- A field that fails leaves no line but its warning. -/
theorem addField_log_of_error {f : FieldGroup} {e : DiscoveryError}
    (failed : (d.addField f).result = .error e) : (d.addField f).log = f.warning := by
  rcases d.addField_cases f with ⟨e, notStored, same⟩ | ⟨name, a, -, -, -, same⟩ |
    ⟨name, a, stored, same⟩
  · rw [same, FieldGroup.warning, notStored]
    rfl
  · rw [same] at failed
    cases failed
  · rw [same] at failed ⊢
    rw [FieldGroup.warning, stored]
    cases hr : resolveType f.type a with
    | error cause =>
        rw [Outcome.log_bind_of_error (readProperty_result_of_error d name hr),
          readProperty_log_of_error name hr]
        simp only [hr]
    | ok r =>
        simp only [hr]
        have warned := readProperty_log_of_ok (d := d) name hr
        cases hp : (d.readProperty name f.type a).result with
        | error cause => rw [Outcome.log_bind_of_error hp, warned]
        | ok p =>
            rw [Outcome.result_bind_of_ok hp] at failed
            rw [Outcome.log_bind_of_ok hp, warned, accept_log, failed]
            exact List.append_nil _

/-- A field that passes is told of as left out, or as the property that it becomes, with its warning
before. -/
theorem addField_log_of_ok {f : FieldGroup} (passed : (d.addField f).result = .ok next) :
    (∃ name a, f.names = [name] ∧ Tag.parseOptional f.tag = .ok a ∧
      a.contains "transient" = true ∧ (d.addField f).log = [.skipped d.entity.name name]) ∨
    ∃ p, f.property? = some p ∧
      (d.addField f).log = p.annotations.warning p.name ++ [.accepted d.entity.name p] := by
  rcases d.addField_cases f with ⟨e, -, same⟩ | ⟨name, a, names, tag, transient, same⟩ |
    ⟨name, a, stored, same⟩
  · rw [same] at passed
    cases passed
  · rw [same]
    exact .inl ⟨name, a, names, tag, transient, rfl⟩
  · rw [same] at passed ⊢
    cases hr : resolveType f.type a with
    | error cause =>
        rw [Outcome.result_bind_of_error (readProperty_result_of_error d name hr)] at passed
        cases passed
    | ok r =>
        have read := readProperty_result_of_ok d name hr
        cases hf : (Property.declare name a r).deriveFlags.failure with
        | some cause =>
            simp only [hf] at read
            rw [Outcome.result_bind_of_error read] at passed
            cases passed
        | none =>
            simp only [hf] at read
            have becomes : f.property? = some
                { (Property.declare name a r).deriveFlags.property with
                  storageName := storageNameOf name a } := by
              simp [FieldGroup.property?, stored, hr, hf]
            refine .inr ⟨_, becomes, ?_⟩
            rw [Outcome.result_bind_of_ok read] at passed
            rw [Outcome.log_bind_of_ok read, readProperty_log_of_ok name hr, accept_log, passed,
              (Property.deriveFlags_property hf).1]
            rfl

end Draft

/-! ## The fields of a struct -/

theorem FieldGroup.Becomes.keptAs {f : FieldGroup} {p : Property} (becomes : f.Becomes p) :
    f.KeptAs p :=
  ⟨becomes.names, becomes.tag, becomes.stored, becomes.types⟩

/-- A property is kept as it is when it gets a flag. -/
theorem FieldGroup.KeptAs.addFlag {f : FieldGroup} {p : Property} (kept : f.KeptAs p)
    (flag : Flag) : f.KeptAs (p.addFlag flag) :=
  ⟨kept.names, kept.tag, kept.stored, kept.types⟩

/-- Fields are told of in the same way when one of their properties gets a flag. -/
theorem FieldsLog.addFlag {entity : String} {fields : List FieldGroup} {ps : List Property}
    {log : List LogLine} (read : FieldsLog entity fields ps log) (flag : Flag) :
    ∀ i, FieldsLog entity fields (ps.modify i (·.addFlag flag)) log := by
  induction read with
  | nil =>
      intro i
      rw [List.modify_nil]
      exact .nil
  | skipped names tag transient rest ih => exact fun i => .skipped names tag transient (ih i)
  | accepted kept rest ih =>
      intro i
      cases i with
      | zero =>
          rw [List.modify_zero_cons]
          exact .accepted (kept.addFlag flag) rest
      | succ i =>
          rw [List.modify_succ_cons]
          exact .accepted kept (ih i)

namespace Draft

/-- Fields that all pass are told of one by one. -/
theorem addFields_log {entity : String} :
    ∀ (fields earlier : List FieldGroup), AllPass entity (earlier ++ fields) →
      FieldsLog entity fields (fields.filterMap FieldGroup.property?)
        ((ofFields entity earlier).addFields fields).log
  | [], _, _ => .nil
  | f :: rest, earlier, pass => by
      have split : earlier ++ f :: rest = (earlier ++ [f]) ++ rest := by simp
      have step := addField_result entity pass.left.allRead f
      rw [FieldGroup.offence?_eq_none.2 (pass earlier f rest rfl)] at step
      have others := addFields_log rest (earlier ++ [f]) (split ▸ pass)
      rw [addFields, Outcome.log_bind_of_ok step]
      rcases addField_log_of_ok step with ⟨name, a, names, tag, transient, log⟩ | ⟨p, becomes, log⟩
      · have noProperty : f.property? = none :=
          FieldGroup.property?_of_not_stored (by simp [FieldGroup.stored?, names, tag, transient])
        rw [log, List.filterMap_cons_none noProperty]
        exact .skipped names tag transient others
      · rw [log, List.filterMap_cons_some becomes, List.append_assoc]
        exact .accepted (FieldGroup.becomes_of_property? becomes).keptAs others

theorem addFields_append (ys : List FieldGroup) : ∀ (xs : List FieldGroup) (d : Draft),
    d.addFields (xs ++ ys) = d.addFields xs >>= fun next => next.addFields ys
  | [], _ => rfl
  | x :: xs, d => by
      rw [List.cons_append, addFields, addFields, Outcome.bind_assoc]
      exact congrArg _ (funext fun next => addFields_append ys xs next)

/-- Behind the fields that pass only a warning is told of the one that does not. -/
theorem addFields_log_of_offends {entity : String} {before after : List FieldGroup}
    {f : FieldGroup} {c : Check} {e : DiscoveryError} (pass : AllPass entity before)
    (offends : f.Offends entity before c e) :
    ((new entity).addFields (before ++ f :: after)).log =
      ((new entity).addFields before).log ++ f.warning := by
  have step := addField_result entity pass.allRead f
  rw [FieldGroup.offence?_eq_some.2 ⟨c, offends⟩] at step
  rw [addFields_append, Outcome.log_bind_of_ok (addFields_new_of_allPass pass), addFields,
    Outcome.log_bind_of_error step, addField_log_of_error step]

end Draft

/-! ## The end of a build -/

/-- An identity that is not found is not told of. -/
theorem Entity.inferIdentity_log_of_error {e : Entity} {err : DiscoveryError}
    (failed : e.inferIdentity.result = .error err) : e.inferIdentity.log = [] := by
  rw [inferIdentity] at failed ⊢
  split
  next => rfl
  next one => simp only [one] at failed; cases failed
  next => rfl

/-- An inferred identity is told of by its name. -/
theorem Entity.inferIdentity_log_of_ok {e next : Entity}
    (done : e.inferIdentity.result = .ok next) :
    ∃ identity, next.identityProperty? = some identity ∧
      e.inferIdentity.log = [.inferred e.name identity] := by
  have result := e.inferIdentity_result
  rw [done] at result
  cases candidates : e.identityCandidates with
  | nil =>
      rw [candidates] at result
      cases result
  | cons first others =>
      obtain ⟨p, i⟩ := first
      cases others with
      | nil =>
          rw [candidates] at result
          obtain rfl := Except.ok.inj result
          have candidate : (p, i) ∈ e.identityCandidates := by
            rw [candidates]
            exact List.mem_singleton_self _
          have at_i := (mem_identityCandidates.1 candidate).1
          have log : e.inferIdentity.log = [.inferred e.name p] := by
            rw [inferIdentity, candidates]
            rfl
          refine ⟨p.addFlag .id, ?_, log⟩
          show (e.properties.modify i (·.addFlag .id))[i]? = _
          rw [List.getElem?_modify_eq, at_i]
          rfl
      | cons second more =>
          rw [candidates] at result
          cases result

namespace Draft

/-- A draft that ends in an error is not told of. -/
theorem finish_log_of_error {d : Draft} {err : DiscoveryError}
    (failed : d.finish.result = .error err) : d.finish.log = [] := by
  rw [finish] at failed ⊢
  split
  next => rfl
  next nonempty =>
    rw [if_neg nonempty] at failed
    split
    next unmarked =>
      rw [if_pos unmarked] at failed
      exact Entity.inferIdentity_log_of_error failed
    next => rfl

end Draft

/-- The flag that an identity gets at the end marks no property. -/
theorem Entity.Finishes.any_isMarked {entity : String} {ps : List Property} {e : Entity} {i : Nat}
    (finishes : e.Finishes entity ps i) :
    e.properties.any Property.isMarked = ps.any Property.isMarked := by
  obtain ⟨before, p, after, split, -, flagged⟩ :=
    List.exists_of_modify (·.addFlag .id) finishes.inRange
  have same : (p.addFlag .id).isMarked = p.isMarked := rfl
  rw [finishes.eq]
  dsimp only
  split
  · rfl
  · rw [flagged, split, List.any_append, List.any_append, List.any_cons, List.any_cons, same]

/-- It is no part of the log, either. -/
theorem Entity.Finishes.fieldsLog {entity : String} {fields : List FieldGroup}
    {ps : List Property} {log : List LogLine} {e : Entity} {i : Nat}
    (finishes : e.Finishes entity ps i) (told : FieldsLog entity fields ps log) :
    FieldsLog entity fields e.properties log := by
  rw [finishes.eq]
  dsimp only
  split
  · exact told
  · exact told.addFlag .id i

/-- A struct that is built to an entity is told of with all its fields. -/
theorem buildEntity_log_of_ok {entity : String} {fields : List FieldGroup} {e : Entity}
    (built : (buildEntity entity fields).result = .ok e) :
    EntityLog entity fields e (buildEntity entity fields).log := by
  obtain ⟨pass, i, finishes⟩ := buildEntity_ok built
  have told := finishes.fieldsLog (Draft.addFields_log fields [] pass)
  have read := Draft.addFields_new_of_allPass pass
  have finished := (buildEntity_result_of_allPass pass).symm.trans built
  have log : (buildEntity entity fields).log = ((Draft.new entity).addFields fields).log ++
      ((Draft.ofFields entity fields).finish.log ++ [.discovered e]) := by
    rw [buildEntity, Outcome.log_bind_of_ok read, Outcome.log_bind_of_ok finished]
    rfl
  rw [Draft.ofFields] at finished log
  have sameMarks := finishes.any_isMarked
  cases marked : e.properties.any Property.isMarked with
  | true =>
      obtain ⟨p, hp, isMarked⟩ := List.any_eq_true.1 (sameMarks.symm.trans marked)
      rw [log, Draft.finish_of_marked hp isMarked]
      exact .marked told (List.any_eq_true.1 marked)
  | false =>
      have unmarked : ∀ p ∈ fields.filterMap FieldGroup.property?, p.isMarked = false :=
        fun p hp => eq_false_of_ne_true (List.any_eq_false.1 (sameMarks.symm.trans marked) p hp)
      have nonempty : fields.filterMap FieldGroup.property? ≠ [] :=
        List.ne_nil_of_length_pos (Nat.zero_lt_of_lt finishes.inRange)
      rw [Draft.finish_of_unmarked nonempty unmarked] at finished log
      obtain ⟨identity, found, inferred⟩ := Entity.inferIdentity_log_of_ok finished
      rw [log, inferred]
      exact .inferred told (fun p hp => eq_false_of_ne_true (List.any_eq_false.1 marked p hp)) found

/-- A struct whose build fails is told of up to the field that does not pass. -/
theorem buildEntity_log_of_error {entity : String} {fields : List FieldGroup}
    {err : DiscoveryError} (failed : (buildEntity entity fields).result = .error err) :
    FailedLog entity fields err (buildEntity entity fields).log := by
  rcases allPass_or_offends entity fields with pass | ⟨before, f, after, c, e, rfl, pass, offends⟩
  · have read := Draft.addFields_new_of_allPass pass
    have ended := (buildEntity_result_of_allPass pass).symm.trans failed
    rw [buildEntity, Outcome.log_bind_of_ok read, Outcome.log_bind_of_error ended,
      Draft.finish_log_of_error ended, List.append_nil]
    refine .entity (Draft.addFields_log fields [] pass) ?_
    rcases buildEntity_cases_of_allPass pass with ⟨e, i, built, -⟩ | ⟨err', same, level⟩
    · rw [built] at failed
      cases failed
    · rw [same] at failed
      cases failed
      exact level
  · have same : (buildEntity entity (before ++ f :: after)).result = .error e :=
      buildEntity_result_of_offends pass offends
    cases same.symm.trans failed
    rw [buildEntity, Outcome.log_bind_of_error (Draft.addFields_new_of_offends pass offends),
      Draft.addFields_log_of_offends pass offends]
    exact .field rfl (Draft.addFields_log before [] pass) offends

/-! ## Messages -/

/-- The messages of the lines that tell of a field. -/
def fieldMessages : List String :=
  ["skipping transient field", "accepted property",
    "value index requested, the storage engine may not support it"]

theorem Annotations.message_mem_of_mem_warning (a : Annotations) (property : String) :
    ∀ l ∈ a.warning property, l.message ∈ fieldMessages := by
  intro l hl
  rw [warning] at hl
  split at hl
  · rw [List.mem_singleton.1 hl]
    simp [LogLine.valueIndex, fieldMessages]
  · cases hl

theorem FieldsLog.message_mem {entity : String} {fields : List FieldGroup} {ps : List Property}
    {log : List LogLine} (read : FieldsLog entity fields ps log) :
    ∀ l ∈ log, l.message ∈ fieldMessages := by
  induction read with
  | nil => exact fun l hl => nomatch hl
  | skipped names tag transient rest ih =>
      exact List.forall_mem_cons.2 ⟨by simp [LogLine.skipped, fieldMessages], ih⟩
  | @accepted f p fields ps log kept rest ih =>
      refine List.forall_mem_append.2 ⟨p.annotations.message_mem_of_mem_warning p.name, ?_⟩
      exact List.forall_mem_cons.2 ⟨by simp [LogLine.accepted, fieldMessages], ih⟩

theorem FieldGroup.message_mem_of_mem_warning (f : FieldGroup) :
    ∀ l ∈ f.warning, l.message ∈ fieldMessages := by
  rw [warning]
  split
  next => exact fun l hl => nomatch hl
  next name a stored =>
    split
    next => exact a.message_mem_of_mem_warning name
    next => exact fun l hl => nomatch hl

theorem FailedLog.message_mem {entity : String} {fields : List FieldGroup} {err : DiscoveryError}
    {log : List LogLine} (failed : FailedLog entity fields err log) :
    ∀ l ∈ log, l.message ∈ fieldMessages := by
  cases failed with
  | entity read level => exact read.message_mem
  | @field before after f ps log c split read offends =>
      exact List.forall_mem_append.2 ⟨read.message_mem, f.message_mem_of_mem_warning⟩

theorem countP_hasMessage_eq_zero {message : String} {log : List LogLine}
    (other : message ∉ fieldMessages) (ofFields : ∀ l ∈ log, l.message ∈ fieldMessages) :
    log.countP (LogLine.hasMessage message) = 0 := by
  rw [List.countP_eq_zero]
  intro l hl has
  exact other (eq_of_beq has ▸ ofFields l hl)

/-- Apart from fields and from an inferred identity, an entity is told of once. -/
theorem EntityLog.countP {entity : String} {fields : List FieldGroup} {e : Entity}
    {log : List LogLine} (told : EntityLog entity fields e log) {message : String}
    (other : message ∉ "inferred identity property" :: fieldMessages) :
    log.countP (LogLine.hasMessage message) = if message = "discovered entity" then 1 else 0 := by
  obtain ⟨notInferred, notOfField⟩ := not_or.1 (mt List.mem_cons.2 other)
  have ended : [LogLine.discovered e].countP (LogLine.hasMessage message) =
      if message = "discovered entity" then 1 else 0 := by
    rw [List.countP_singleton]
    exact if_congr (beq_iff_eq.trans eq_comm) rfl rfl
  cases told with
  | marked read marked =>
      rw [List.countP_append, countP_hasMessage_eq_zero notOfField read.message_mem, Nat.zero_add,
        ended]
  | @inferred log identity read unmarked found =>
      have silent : ¬(LogLine.inferred entity identity).hasMessage message = true :=
        fun has => notInferred (eq_of_beq has).symm
      rw [List.countP_append, countP_hasMessage_eq_zero notOfField read.message_mem, Nat.zero_add,
        List.countP_cons_of_neg silent, ended]

end EntityBinding
