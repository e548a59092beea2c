import EntityBinding.Proofs.Checks
import Mathlib.Data.List.Forall2

/-!
# A build follows the checks

While a build reads the fields of a struct, its draft holds the properties of the fields so
far, the first of them that is marked `id` as identity, and their storage names in small
letters (`Draft.holding`).  A field that passes every check adds its property to the draft,
and the error of any other field is that of the first check it fails
(`Draft.addField_result`).  So a build goes through all fields if they all pass, and else
ends with the error of the first field that does not (`Draft.addFields_of_allPass`,
`Draft.addFields_of_offends`).
-/

namespace EntityBinding

open Text (lowercaseString)

/-! ## Drafts -/

/-- Whether a property is marked as the identity. -/
def Property.isMarked (p : Property) : Bool := p.annotations.contains "id"

/-- The draft that holds some properties. -/
def Draft.holding (entity : String) (ps : List Property) : Draft where
  entity := ⟨entity, 0, 0, ps, ps.findIdx? Property.isMarked, .unassigned⟩
  storageNames := (ps.map fun p => lowercaseString p.storageName).reverse

namespace Draft

theorem mem_storageNames_holding {entity s : String} {ps : List Property} :
    s ∈ (holding entity ps).storageNames ↔ ∃ p ∈ ps, lowercaseString p.storageName = s := by
  simp [holding]

/-- The identity of a draft is its first marked property. -/
theorem identityProperty?_holding (entity : String) (ps : List Property) :
    (holding entity ps).entity.identityProperty? = ps.find? Property.isMarked := by
  show ((ps.findIdx? Property.isMarked).bind fun i => ps[i]?) = _
  induction ps with
  | nil => rfl
  | cons p ps ih =>
      rw [List.findIdx?_cons, List.find?_cons]
      cases hp : p.isMarked with
      | true => rfl
      | false =>
          rw [← ih]
          cases List.findIdx? Property.isMarked ps with
          | none => rfl
          | some i => rfl

/-- A property that is the only marked one, if it is marked, joins a draft. -/
theorem push_holding {entity : String} {ps : List Property} {p : Property}
    (only : p.isMarked = true → ps.find? Property.isMarked = none) :
    (holding entity ps).push p = holding entity (ps ++ [p]) := by
  cases hp : p.isMarked with
  | true =>
      have marked : p.annotations.contains "id" = true := hp
      have noneBefore : ps.findIdx? Property.isMarked = none := by
        rw [List.findIdx?_eq_none_iff]
        intro q hq
        simpa using List.find?_eq_none.1 (only hp) q hq
      simp [push, holding, Entity.push, Entity.setIdentity, marked, hp, noneBefore,
        List.findIdx?_append]
  | false =>
      have notMarked : p.annotations.contains "id" = false := hp
      simp [push, holding, Entity.push, notMarked, hp, List.findIdx?_append]

end Draft

/-! ## The fields of a draft -/

/-- Every stored field is a property, as it is behind the checks of the types and flags. -/
def AllRead (fields : List FieldGroup) : Prop :=
  ∀ f ∈ fields, f.stored?.isSome = true → f.property?.isSome = true

theorem AllPass.allRead {entity : String} {fields : List FieldGroup}
    (pass : AllPass entity fields) : AllRead fields := by
  intro f hf
  obtain ⟨before, after, rfl⟩ := List.append_of_mem hf
  exact (pass before f after rfl).property?_isSome

/-- A field is stored if it is a property, with the same name and the same tag. -/
theorem FieldGroup.stored?_of_property? {f : FieldGroup} {p : Property}
    (h : f.property? = some p) : f.stored? = some (p.name, p.annotations) := by
  have becomes := FieldGroup.becomes_of_property? h
  exact FieldGroup.stored?_eq_some.2 ⟨becomes.names, becomes.tag, becomes.stored⟩

/-- The names and tags of the properties are those of the stored fields. -/
theorem AllRead.stored {fields : List FieldGroup} (read : AllRead fields) :
    fields.filterMap FieldGroup.stored? =
      (fields.filterMap FieldGroup.property?).map fun p => (p.name, p.annotations) := by
  induction fields with
  | nil => rfl
  | cons f fields ih =>
      have ih := ih fun g hg => read g (List.mem_cons_of_mem f hg)
      cases hp : f.property? with
      | some p =>
          rw [List.filterMap_cons_some (FieldGroup.stored?_of_property? hp),
            List.filterMap_cons_some hp, ih]
          rfl
      | none =>
          have hs : f.stored? = none := by
            cases hs : f.stored? with
            | none => rfl
            | some s =>
                have := read f List.mem_cons_self (by simp [hs])
                simp [hp] at this
          rw [List.filterMap_cons_none hs, List.filterMap_cons_none hp, ih]

/-- The fields that are marked are those whose properties are marked. -/
theorem AllRead.markedNames {fields : List FieldGroup} (read : AllRead fields) :
    markedNames fields =
      ((fields.filterMap FieldGroup.property?).filter Property.isMarked).map Property.name := by
  rw [EntityBinding.markedNames]
  rw [read.stored, List.filter_map, List.map_map]
  rfl

/-- The names that are taken are those of the properties. -/
theorem AllRead.takenNames {fields : List FieldGroup} (read : AllRead fields) :
    takenNames fields = (fields.filterMap FieldGroup.property?).map fun p =>
      lowercaseString p.storageName := by
  rw [EntityBinding.takenNames]
  rw [read.stored, List.map_map]
  refine List.map_congr_left ?_
  intro p hp
  obtain ⟨f, -, becomes⟩ := exists_becomes hp
  simp [becomes.storageName]

/-- The stored fields become the properties, one by one. -/
theorem AllRead.becomes {fields : List FieldGroup} (read : AllRead fields) :
    List.Forall₂ FieldGroup.Becomes (fields.filter fun f => f.stored?.isSome)
      (fields.filterMap FieldGroup.property?) := by
  induction fields with
  | nil => exact .nil
  | cons f fields ih =>
      have ih := ih fun g hg => read g (List.mem_cons_of_mem f hg)
      cases stored : f.stored?.isSome with
      | true =>
          obtain ⟨p, hp⟩ := Option.isSome_iff_exists.1 (read f List.mem_cons_self stored)
          simp only [List.filter_cons, stored, if_true, List.filterMap_cons_some hp]
          exact .cons (FieldGroup.becomes_of_property? hp) ih
      | false =>
          have noProperty : f.property? = none :=
            FieldGroup.property?_of_not_stored (by simpa using stored)
          simp only [List.filter_cons, stored, Bool.false_eq_true, if_false,
            List.filterMap_cons_none noProperty]
          exact ih

/-! ## The first failing check -/

namespace FieldGroup

variable {f : FieldGroup} {entity name : String} {earlier : List FieldGroup} {a : Annotations}

theorem offence?_of_names (h : f.names.length ≠ 1) :
    f.offence? entity earlier = some (.invalidFieldNames entity f.names.length) := by
  simp [offence?, Check.all, Check.error?, h]

theorem offence?_of_tag {cause : FieldError} (names : f.names = [name])
    (tag : Tag.parseOptional f.tag = .error cause) :
    f.offence? entity earlier = some (.property entity name cause) := by
  simp [offence?, Check.all, Check.error?, names, tag]

/-- The checks of a transient field end with its tag. -/
theorem offence?_of_transient (names : f.names = [name])
    (tag : Tag.parseOptional f.tag = .ok a) (transient : a.contains "transient" = true) :
    f.offence? entity earlier = none := by
  have notStored : f.stored? = none := by simp [stored?, names, tag, transient]
  simp [offence?, Check.all, Check.error?, names, tag, notStored]

/-- The checks of a stored field start with its type. -/
theorem offence?_of_stored (stored : f.stored? = some (name, a)) :
    f.offence? entity earlier =
      ([.type, .flags, .identity, .storageName, .uniqueName] : List Check).findSome?
        (Check.storedError? entity earlier f.type name a) := by
  obtain ⟨names, tag, -⟩ := stored?_eq_some.1 stored
  simp only [offence?, Check.all, List.findSome?_cons, List.findSome?_nil, Check.error?, names,
    tag, stored, List.length_singleton, if_true, Option.bind_some]

end FieldGroup

/-! ## One field of a build -/

namespace Draft

theorem readProperty_result_of_error (d : Draft) (name : String) {type : TypeExpr}
    {a : Annotations} {cause : FieldError} (h : resolveType type a = .error cause) :
    (d.readProperty name type a).result = .error (.property d.entity.name name cause) := by
  rw [readProperty]
  rw [h]
  rfl

theorem readProperty_result_of_ok (d : Draft) (name : String) {type : TypeExpr}
    {a : Annotations} {r : ResolvedType} (h : resolveType type a = .ok r) :
    (d.readProperty name type a).result =
      match (Property.declare name a r).deriveFlags.failure with
      | some cause => .error (.property d.entity.name name cause)
      | none => .ok (Property.declare name a r).deriveFlags.property := by
  rw [readProperty, h, Outcome.result_bind_of_ok (a := r) rfl, Property.declare]
  dsimp only
  split
  next ok => rw [ok]
  next cause failed => rw [failed]

/-- A property that is marked joins no draft with an identity. -/
theorem accept_result_of_marked {d : Draft} {p first : Property} (marked : p.isMarked = true)
    (taken : d.entity.identityProperty? = some first) :
    (d.accept p).result = .error (.multipleIds d.entity.name first.name p.name) := by
  rw [accept]
  rw [show p.annotations.contains "id" = true from marked, taken]
  rfl

/-- A property under its storage name joins a draft if the name is not taken. -/
def join (d : Draft) (field : String) (named : Property) : Outcome Draft :=
  if d.storageNames.contains (lowercaseString named.storageName) then
    .fail (.property d.entity.name field .duplicateStorageName)
  else do
    .emit (.propertyAccepted d.entity.name named.name named.storageType)
    return d.push named

theorem join_result (d : Draft) (field : String) (named : Property) :
    (d.join field named).result =
      if lowercaseString named.storageName ∈ d.storageNames then
        .error (.property d.entity.name field .duplicateStorageName)
      else
        .ok (d.push named) := by
  rw [join]
  by_cases taken : lowercaseString named.storageName ∈ d.storageNames
  · rw [if_pos (List.contains_iff_mem.2 taken), if_pos taken]
    rfl
  · rw [if_neg (fun h => taken (List.contains_iff_mem.1 h)), if_neg taken]
    rfl

/-- Any other property gets its storage name and joins. -/
theorem accept_of_free {d : Draft} {p : Property}
    (free : p.isMarked = true → d.entity.identityProperty? = none) :
    d.accept p = d.check p.name (applyStorageName p) >>= d.join p.name := by
  rw [accept]
  split
  next first marked taken =>
    rw [free marked] at taken
    cases taken
  next => rfl

/-- The storage name is that of the tag, which must not be empty and not be taken. -/
theorem accept_result_of_free {d : Draft} {p : Property} (plain : p.storageName = p.name)
    (free : p.isMarked = true → d.entity.identityProperty? = none) :
    (d.accept p).result =
      if p.annotations.get? "nameindb" = some "" then
        .error (.property d.entity.name p.name .emptyStorageName)
      else if lowercaseString (storageNameOf p.name p.annotations) ∈ d.storageNames then
        .error (.property d.entity.name p.name .duplicateStorageName)
      else
        .ok (d.push { p with storageName := storageNameOf p.name p.annotations }) := by
  rw [accept_of_free free, applyStorageName, storageNameOf]
  cases hn : p.annotations.get? "nameindb" with
  | none =>
      have same : { p with storageName := p.name } = p := by
        cases p
        cases plain
        rfl
      rw [Outcome.result_bind_of_ok (a := p) rfl, join_result]
      simp [same, plain]
  | some name =>
      by_cases empty : name = ""
      · subst empty
        rfl
      · have notEmpty : name.isEmpty = false := by simpa using empty
        rw [Outcome.result_bind_of_ok (a := { p with storageName := name }) (by
          simp only [notEmpty, Bool.false_eq_true, if_false]
          rfl), join_result]
        simp [empty]

/-- The draft of some fields. -/
def ofFields (entity : String) (fields : List FieldGroup) : Draft :=
  holding entity (fields.filterMap FieldGroup.property?)

@[simp] theorem ofFields_name (entity : String) (fields : List FieldGroup) :
    (ofFields entity fields).entity.name = entity := rfl

/-- The identity of a draft is the first field that is marked. -/
theorem identityProperty?_ofFields (entity : String) {fields : List FieldGroup}
    (read : AllRead fields) :
    (ofFields entity fields).entity.identityProperty?.map Property.name =
      (markedNames fields).head? := by
  rw [ofFields]
  rw [identityProperty?_holding, read.markedNames, List.head?_map, List.head?_filter]

theorem mem_storageNames_ofFields {entity s : String} {fields : List FieldGroup}
    (read : AllRead fields) :
    s ∈ (ofFields entity fields).storageNames ↔ s ∈ takenNames fields := by
  rw [ofFields]
  rw [mem_storageNames_holding, read.takenNames, List.mem_map]

/-- A property joins the draft of some fields, or fails with the error of the first of the last
three checks that it does not pass. -/
theorem accept_ofFields {entity : String} {earlier : List FieldGroup} (type : TypeExpr)
    {p : Property} (read : AllRead earlier) (plain : p.storageName = p.name) :
    ((ofFields entity earlier).accept p).result =
      match ([.identity, .storageName, .uniqueName] : List Check).findSome?
          (Check.storedError? entity earlier type p.name p.annotations) with
      | some e => .error e
      | none => .ok ((ofFields entity earlier).push
          { p with storageName := storageNameOf p.name p.annotations }) := by
  have firstMarked := identityProperty?_ofFields entity read
  by_cases clash : p.isMarked = true ∧
      ∃ first, (ofFields entity earlier).entity.identityProperty? = some first
  · obtain ⟨marked, first, taken⟩ := clash
    rw [taken, Option.map_some] at firstMarked
    have marked' : p.annotations.contains "id" = true := marked
    rw [accept_result_of_marked marked taken]
    simp only [List.findSome?_cons, Check.storedError?, marked', if_true, ← firstMarked,
      Option.map_some, ofFields_name]
  · have free : p.isMarked = true → (ofFields entity earlier).entity.identityProperty? = none := by
      intro marked
      rw [Option.eq_none_iff_forall_ne_some]
      exact fun first taken => clash ⟨marked, first, taken⟩
    have passes : Check.storedError? entity earlier type p.name p.annotations .identity = none := by
      simp only [Check.storedError?]
      split
      next marked =>
        rw [← firstMarked, free marked]
        rfl
      next => rfl
    rw [List.findSome?_cons, passes, accept_result_of_free plain free]
    simp only [List.findSome?_cons, List.findSome?_nil, Check.storedError?,
      mem_storageNames_ofFields read, ofFields_name]
    split
    · rfl
    · split
      · rfl
      · rfl

/-- A property that is the only marked one, if it is marked, joins the draft of some fields as
that of one field more. -/
theorem push_ofFields {entity : String} {earlier : List FieldGroup} {f : FieldGroup}
    {p : Property} (read : AllRead earlier) (property : f.property? = some p)
    (only : p.isMarked = true → markedNames earlier = []) :
    (ofFields entity earlier).push p = ofFields entity (earlier ++ [f]) := by
  simp only [ofFields]
  rw [push_holding, List.filterMap_append, List.filterMap_cons_some property, List.filterMap_nil]
  intro marked
  have none := only marked
  rw [read.markedNames, List.map_eq_nil_iff, List.filter_eq_nil_iff] at none
  rw [List.find?_eq_none]
  exact none

/-- A field that is not stored leaves a draft as it is. -/
theorem ofFields_append_of_not_stored {entity : String} {earlier : List FieldGroup}
    {f : FieldGroup} (h : f.stored? = none) :
    ofFields entity (earlier ++ [f]) = ofFields entity earlier := by
  simp only [ofFields]
  rw [List.filterMap_append, List.filterMap_cons_none (FieldGroup.property?_of_not_stored h),
    List.filterMap_nil, List.append_nil]

/-- The property of a stored field joins the draft of the fields before it, or fails with the
error of the first of the last three checks that it does not pass. -/
theorem accept_result_of_property? {entity : String} {earlier : List FieldGroup} {f : FieldGroup}
    {p : Property} (read : AllRead earlier) (plain : p.storageName = p.name)
    (property : f.property? =
      some { p with storageName := storageNameOf p.name p.annotations }) :
    ((ofFields entity earlier).accept p).result =
      match ([.identity, .storageName, .uniqueName] : List Check).findSome?
          (Check.storedError? entity earlier f.type p.name p.annotations) with
      | some e => .error e
      | none => .ok (ofFields entity (earlier ++ [f])) := by
  rw [accept_ofFields f.type read plain]
  cases offence : List.findSome? (Check.storedError? entity earlier f.type p.name p.annotations)
      [.identity, .storageName, .uniqueName] with
  | some e => rfl
  | none =>
      simp only
      rw [push_ofFields read property ?_]
      intro marked
      have identity := List.findSome?_eq_none_iff.1 offence .identity (by simp)
      have marked : p.annotations.contains "id" = true := marked
      simp only [Check.storedError?, marked, if_true, Option.map_eq_none_iff] at identity
      exact List.head?_eq_none_iff.1 identity

/-- A stored field joins the draft of the fields before it, or fails with the error of the
first check that it does not pass. -/
theorem addStored_result {entity : String} {earlier : List FieldGroup} {f : FieldGroup}
    {name : String} {a : Annotations} (read : AllRead earlier)
    (stored : f.stored? = some (name, a)) :
    ((do
      let p ← (ofFields entity earlier).readProperty name f.type a
      (ofFields entity earlier).accept p) : Outcome Draft).result =
      match f.offence? entity earlier with
      | some e => .error e
      | none => .ok (ofFields entity (earlier ++ [f])) := by
  rw [FieldGroup.offence?_of_stored stored, List.findSome?_cons, List.findSome?_cons]
  cases hr : resolveType f.type a with
  | error cause =>
      rw [Outcome.result_bind_of_error (readProperty_result_of_error _ name hr)]
      simp only [Check.storedError?, hr, ofFields_name]
  | ok r =>
      have readResult := readProperty_result_of_ok (ofFields entity earlier) name hr
      cases hf : (Property.declare name a r).deriveFlags.failure with
      | some cause =>
          simp only [hf] at readResult
          rw [Outcome.result_bind_of_error readResult]
          simp only [Check.storedError?, hr, hf, Option.map_some, ofFields_name]
      | none =>
          simp only [hf] at readResult
          rw [Outcome.result_bind_of_ok readResult]
          simp only [Check.storedError?, hr, hf, Option.map_none]
          have property : f.property? = some
              { (Property.declare name a r).deriveFlags.property with
                storageName := storageNameOf name a } := by
            simp [FieldGroup.property?, stored, hr, hf]
          have derived := (Property.deriveFlags_property hf).1
          -- Of the derived property only what the last three checks look at matters from here.
          generalize (Property.declare name a r).deriveFlags.property = p at property derived ⊢
          obtain rfl : p.name = name := by rw [derived]; rfl
          obtain rfl : p.annotations = a := by rw [derived]; rfl
          have plain : p.storageName = p.name := by rw [derived]; rfl
          exact accept_result_of_property? read plain property

/-- A field that passes every check joins the draft of the fields before it if it is stored,
and any other field fails with the error of the first check that it does not pass. -/
theorem addField_result (entity : String) {earlier : List FieldGroup} (read : AllRead earlier)
    (f : FieldGroup) :
    ((ofFields entity earlier).addField f).result =
      match f.offence? entity earlier with
      | some e => .error e
      | none => .ok (ofFields entity (earlier ++ [f])) := by
  rw [addField]
  split
  next name names =>
    cases ht : Tag.parseOptional f.tag with
    | error cause =>
        rw [FieldGroup.offence?_of_tag names ht, Outcome.result_bind_of_error rfl]
        rfl
    | ok a =>
        rw [Outcome.result_bind_of_ok (a := a) rfl]
        cases transient : a.contains "transient" with
        | true =>
            have notStored : f.stored? = none := by
              simp [FieldGroup.stored?, names, ht, transient]
            rw [FieldGroup.offence?_of_transient names ht transient,
              ofFields_append_of_not_stored notStored]
            rfl
        | false =>
            have stored : f.stored? = some (name, a) :=
              FieldGroup.stored?_eq_some.2 ⟨names, ht, transient⟩
            simp only [Bool.false_eq_true, if_false]
            exact addStored_result read stored
  next names notOne =>
    rw [FieldGroup.offence?_of_names (by
      intro one
      obtain ⟨name, single⟩ := List.length_eq_one_iff.1 one
      exact notOne name single)]
    rfl

/-! ## All fields of a build -/

/-- A build goes through fields that all pass. -/
theorem addFields_of_allPass {entity : String} :
    ∀ (fields earlier : List FieldGroup), AllPass entity (earlier ++ fields) →
      ((ofFields entity earlier).addFields fields).result =
        .ok (ofFields entity (earlier ++ fields))
  | [], earlier, _ => by
      rw [List.append_nil]
      rfl
  | f :: rest, earlier, pass => by
      have split : earlier ++ f :: rest = (earlier ++ [f]) ++ rest := by simp
      have step := addField_result entity pass.left.allRead f
      rw [FieldGroup.offence?_eq_none.2 (pass earlier f rest rfl)] at step
      rw [addFields, Outcome.result_bind_of_ok step, split]
      exact addFields_of_allPass rest (earlier ++ [f]) (split ▸ pass)

/-- A build that comes to a field that does not pass ends with the error of the field. -/
theorem addFields_of_offends {entity : String} {f : FieldGroup} {after : List FieldGroup}
    {c : Check} {e : DiscoveryError} :
    ∀ (before earlier : List FieldGroup), AllPass entity (earlier ++ before) →
      f.Offends entity (earlier ++ before) c e →
      ((ofFields entity earlier).addFields (before ++ f :: after)).result = .error e
  | [], earlier, pass, offends => by
      rw [List.append_nil] at pass offends
      have step := addField_result entity pass.allRead f
      rw [FieldGroup.offence?_eq_some.2 ⟨c, offends⟩] at step
      rw [List.nil_append, addFields, Outcome.result_bind_of_error step]
  | g :: before, earlier, pass, offends => by
      have split : earlier ++ g :: before = (earlier ++ [g]) ++ before := by simp
      have step := addField_result entity pass.left.allRead g
      rw [FieldGroup.offence?_eq_none.2 (pass earlier g before rfl)] at step
      rw [List.cons_append, addFields, Outcome.result_bind_of_ok step]
      exact addFields_of_offends before (earlier ++ [g]) (split ▸ pass) (split ▸ offends)

/-- The draft of no fields is a new one. -/
theorem addFields_new_of_allPass {entity : String} {fields : List FieldGroup}
    (pass : AllPass entity fields) :
    ((new entity).addFields fields).result = .ok (ofFields entity fields) :=
  addFields_of_allPass fields [] pass

theorem addFields_new_of_offends {entity : String} {before after : List FieldGroup}
    {f : FieldGroup} {c : Check} {e : DiscoveryError} (pass : AllPass entity before)
    (offends : f.Offends entity before c e) :
    ((new entity).addFields (before ++ f :: after)).result = .error e :=
  addFields_of_offends before [] pass offends

end Draft

end EntityBinding
