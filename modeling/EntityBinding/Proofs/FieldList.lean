import EntityBinding.Proofs.FirstOffence
import EntityBinding.Proofs.Validity

/-!
# Other lists of fields

What becomes of an entity when the fields of its struct are listed in another way.

* In another order the struct can be built if and only if it could be before, with the same
  properties in the new order and with the same field as identity (`buildEntity_perm`).
* With a transient field more, at any place, the struct comes to the same entity or to the same
  error (`buildEntity_insert_transient`).
* Without any of the fields that are not the identity it comes to the entity without their
  properties (`buildEntity_sublist`).
-/

namespace EntityBinding

/-! ## The entity of a list of fields -/

/-- The property that a field becomes in an entity with a certain identity. -/
def FieldGroup.propertyBeside? (identity : Property) (f : FieldGroup) : Option Property :=
  f.property?.map (·.beside identity)

theorem map_beside_filterMap_property? (fields : List FieldGroup) (identity : Property) :
    (fields.filterMap FieldGroup.property?).map (·.beside identity) =
      fields.filterMap (FieldGroup.propertyBeside? identity) := by
  rw [List.map_filterMap]
  rfl

/-- A sound field becomes a property in an entity if and only if it is stored. -/
theorem FieldGroup.Sound.propertyBeside?_isSome {f : FieldGroup} (sound : f.Sound)
    (identity : Property) : (f.propertyBeside? identity).isSome = f.stored?.isSome := by
  rw [propertyBeside?, Option.isSome_map]
  cases stored : f.stored?.isSome with
  | true => exact sound.property stored
  | false => rw [property?_of_not_stored (by simpa using stored), Option.isSome_none]

/-- Properties that are apart stay so in an entity, and so a property tells its field. -/
theorem eq_of_propertyBeside?_eq {fields : List FieldGroup} {f g : FieldGroup}
    {identity p : Property}
    (apart : (fields.filterMap FieldGroup.property?).Pairwise Property.Apart)
    (hf : f ∈ fields) (hg : g ∈ fields) (fp : f.propertyBeside? identity = some p)
    (gp : g.propertyBeside? identity = some p) : f = g := by
  obtain ⟨q, fq, rfl⟩ := Option.map_eq_some_iff.1 fp
  obtain ⟨r, gr, same⟩ := Option.map_eq_some_iff.1 gp
  have names : r.storageName = q.storageName := by
    rw [← r.beside_storageName identity, same, q.beside_storageName]
  have equal : q = r := by
    by_contra different
    have memQ : q ∈ fields.filterMap FieldGroup.property? := List.mem_filterMap.2 ⟨f, hf, fq⟩
    have memR : r ∈ fields.filterMap FieldGroup.property? := List.mem_filterMap.2 ⟨g, hg, gr⟩
    exact (apart.forall memQ memR different).1 (by rw [names])
  exact eq_of_property?_eq apart hf hg fq (equal ▸ gr)

/-- The property at the position of the identity is the one that may be it. -/
theorem identityProperty?_beside {entity : String} {ps : List Property} {p : Property} {i : Nat}
    (at_i : ps[i]? = some p) :
    (⟨entity, 0, 0, ps.map (·.beside p), some i, .unassigned⟩ : Entity).identityProperty? =
      some p.designated := by
  show (ps.map (·.beside p))[i]? = _
  rw [List.getElem?_map, at_i, Option.map_some, Property.beside_self]

/-! ## Another order -/

theorem any_isMarked_perm {ps qs : List Property} (perm : ps.Perm qs) :
    ps.any Property.isMarked = qs.any Property.isMarked := by
  rw [Bool.eq_iff_iff, List.any_eq_true, List.any_eq_true]
  simp only [perm.mem_iff]

/-- The choices for the identity know no order. -/
theorem identityChoices_perm {ps qs : List Property} (perm : ps.Perm qs) :
    (identityChoices ps).Perm (identityChoices qs) := by
  rw [identityChoices, identityChoices, any_isMarked_perm perm]
  split
  · exact perm.filter _
  · exact perm.filter _

/-- A struct that can be built can be built in any order of its fields, with the same property
as identity. -/
theorem buildEntity_of_perm {entity : String} {fields shuffled : List FieldGroup} {e : Entity}
    (perm : fields.Perm shuffled) (built : (buildEntity entity fields).result = .ok e) :
    ∃ f p s, f ∈ fields ∧ f.property? = some p ∧
      e.properties = fields.filterMap (FieldGroup.propertyBeside? p) ∧
      e.identityProperty? = some p.designated ∧
      (buildEntity entity shuffled).result = .ok s ∧
      s.properties = shuffled.filterMap (FieldGroup.propertyBeside? p) ∧
      s.identityProperty? = some p.designated := by
  obtain ⟨sound, apart, p, i, choice, at_i, rfl⟩ := buildEntity_result_eq_ok_iff.1 built
  have permProperties := perm.filterMap FieldGroup.property?
  have memP := List.mem_of_getElem? at_i
  obtain ⟨f, hf, property⟩ := List.mem_filterMap.1 memP
  obtain ⟨j, at_j⟩ := List.getElem?_of_mem (permProperties.mem_iff.1 memP)
  have shuffledChoice : identityChoices (shuffled.filterMap FieldGroup.property?) = [p] := by
    have permChoices := identityChoices_perm permProperties
    rw [choice] at permChoices
    exact (List.singleton_perm.1 permChoices).symm
  have shuffledApart := permProperties.pairwise apart Property.Apart.symm
  refine ⟨f, p, _, hf, property, map_beside_filterMap_property? fields p,
    identityProperty?_beside at_i,
    buildEntity_result_eq_ok_iff.2 ⟨?_, shuffledApart, p, j, shuffledChoice, at_j, rfl⟩,
    map_beside_filterMap_property? shuffled p, identityProperty?_beside at_j⟩
  exact fun g hg => sound g (perm.mem_iff.2 hg)

/-- The order of its fields never decides whether a struct can be built.  In another order the
fields become the same properties, listed in that order, and the same field is the identity. -/
theorem buildEntity_perm (entity : String) {fields shuffled : List FieldGroup}
    (perm : fields.Perm shuffled) :
    ((∃ e, (buildEntity entity fields).result = .ok e) ↔
        ∃ s, (buildEntity entity shuffled).result = .ok s) ∧
      ∀ e s, (buildEntity entity fields).result = .ok e →
        (buildEntity entity shuffled).result = .ok s →
        ∃ property : FieldGroup → Option Property,
          e.properties = fields.filterMap property ∧
          s.properties = shuffled.filterMap property ∧
          (∀ f ∈ fields, (property f).isSome = f.stored?.isSome) ∧
          ∃ f p, f ∈ fields ∧ property f = some p ∧
            (∀ g ∈ fields, property g = some p → g = f) ∧
            e.identityProperty? = some p ∧ s.identityProperty? = some p := by
  refine ⟨⟨?_, ?_⟩, ?_⟩
  · rintro ⟨e, built⟩
    obtain ⟨-, -, s, -, -, -, -, again, -⟩ := buildEntity_of_perm perm built
    exact ⟨s, again⟩
  · rintro ⟨s, built⟩
    obtain ⟨-, -, e, -, -, -, -, again, -⟩ := buildEntity_of_perm perm.symm built
    exact ⟨e, again⟩
  · intro e s built shuffledBuilt
    obtain ⟨sound, apart, -⟩ := buildEntity_result_eq_ok_iff.1 built
    obtain ⟨f, p, s', hf, property, properties, identity, again, properties', identity'⟩ :=
      buildEntity_of_perm perm built
    obtain rfl : s' = s := Except.ok.inj (again.symm.trans shuffledBuilt)
    have becomes : f.propertyBeside? p = some p.designated := by
      rw [FieldGroup.propertyBeside?, property, Option.map_some, Property.beside_self]
    refine ⟨FieldGroup.propertyBeside? p, properties, properties',
      fun g hg => (sound g hg).propertyBeside?_isSome p, f, p.designated, hf, becomes,
      fun g hg same => ?_, identity, identity'⟩
    exact eq_of_propertyBeside?_eq apart hg hf same becomes

/-- Fields with an identity that is not marked, with one that is not stored, and with one that
has an index. -/
def visitFields : List FieldGroup := [
  ⟨["Id"], .ident "uint64", none⟩,
  ⟨["Cache"], .anything, some "\x60transient\x60"⟩,
  ⟨["Page"], .ident "string", some "\x60unique nameInDb:\"url\"\x60"⟩]

/-- From the last field to the first the identity stands last, and it is the same property. -/
theorem buildEntity_perm_visitFields :
    visitFields.Perm visitFields.reverse ∧
      (buildEntity "Visit" visitFields).result.map Entity.identity = .ok (some 0) ∧
      (buildEntity "Visit" visitFields.reverse).result.map Entity.identity = .ok (some 1) ∧
      ∀ e s, (buildEntity "Visit" visitFields).result = .ok e →
        (buildEntity "Visit" visitFields.reverse).result = .ok s →
        e.identityProperty? = s.identityProperty? := by
  have perm : visitFields.Perm visitFields.reverse := (List.reverse_perm _).symm
  refine ⟨perm, by decide +kernel, by decide +kernel, fun e s built reversed => ?_⟩
  obtain ⟨-, -, -, -, f, p, -, -, -, identity, identity'⟩ :=
    (buildEntity_perm "Visit" perm).2 e s built reversed
  rw [identity, identity']

/-! ## Transient fields -/

/-- A field declares one name, and its tag can be read and says `transient`. -/
def FieldGroup.IsTransient (f : FieldGroup) : Prop :=
  ∃ name a, f.names = [name] ∧ Tag.parseOptional f.tag = .ok a ∧ a.contains "transient" = true

theorem FieldGroup.IsTransient.stored? {f : FieldGroup} (h : f.IsTransient) : f.stored? = none := by
  obtain ⟨name, a, names, tag, transient⟩ := h
  simp [FieldGroup.stored?, names, tag, transient]

theorem FieldGroup.IsTransient.offence? {f : FieldGroup} (h : f.IsTransient) (entity : String)
    (earlier : List FieldGroup) : f.offence? entity earlier = none := by
  obtain ⟨name, a, names, tag, transient⟩ := h
  exact offence?_of_transient names tag transient

/-- A transient field passes and leaves no name, so it adds no offence to those of the others. -/
theorem firstOffence?_insert_transient {entity : String} {t : FieldGroup}
    (transient : t.IsTransient) (before after : List FieldGroup) :
    firstOffence? entity [] (before ++ t :: after) =
      firstOffence? entity [] (before ++ after) := by
  have same : SameNames (before ++ [t]) before := by
    simpa using (SameNames.refl before).append (.of_not_stored transient.stored?)
  rw [firstOffence?_append, firstOffence?_append, List.nil_append, firstOffence?,
    transient.offence?, Option.none_or, firstOffence?_congr after same]

/-- A transient field leaves no trace.  Whatever its name, its type and the rest of its tag are, and
wherever it stands, the struct comes to the same entity or to the same error with it as without
it. -/
theorem buildEntity_insert_transient (entity : String) (before after : List FieldGroup)
    {t : FieldGroup} (transient : t.IsTransient) :
    (buildEntity entity (before ++ t :: after)).result =
      (buildEntity entity (before ++ after)).result := by
  have draft : Draft.ofFields entity (before ++ t :: after) =
      Draft.ofFields entity (before ++ after) := by
    have noProperty := FieldGroup.property?_of_not_stored transient.stored?
    simp only [Draft.ofFields, List.filterMap_append, List.filterMap_cons_none noProperty]
  rw [buildEntity_result_eq, buildEntity_result_eq, firstOffence?_insert_transient transient, draft]

/-- A field that would fail every check of a stored field, if it were one. -/
def ghostField : FieldGroup :=
  ⟨["id"], .pointer .anything, some
    "\x60Transient id index:\"btree\" unique link:\"\" nameInDb:\"\"\x60"⟩

/-- It may stand between the other fields. -/
theorem buildEntity_insert_transient_ghostField :
    ghostField.IsTransient ∧
      (buildEntity "Visit" (visitFields.take 1 ++ ghostField :: visitFields.drop 1)).result =
        (buildEntity "Visit" visitFields).result ∧
      (buildEntity "Visit" visitFields).result.map Entity.identity = .ok (some 0) := by
  have transient : ghostField.IsTransient := ⟨"id", _, rfl, rfl, rfl⟩
  exact ⟨transient, buildEntity_insert_transient "Visit" (visitFields.take 1) (visitFields.drop 1)
    transient, by decide +kernel⟩

/-! ## Fewer fields -/

/-- The field `f`, which comes after the fields `before`, is the identity of the entity. -/
structure Entity.IdentifiedBy (e : Entity) (before : List FieldGroup) (f : FieldGroup) : Prop where
  /-- The field is stored. -/
  stored : f.stored?.isSome = true
  /-- The identity stands behind as many properties as there are stored fields before. -/
  position : e.identity = some (before.filterMap FieldGroup.stored?).length

theorem filterMap_property?_split {before after : List FieldGroup} {f : FieldGroup} {p : Property}
    (property : f.property? = some p) : (before ++ f :: after).filterMap FieldGroup.property? =
      before.filterMap FieldGroup.property? ++ p :: after.filterMap FieldGroup.property? := by
  rw [List.filterMap_append, List.filterMap_cons_some property]

/-- An entity that was built from sound fields with properties that are apart, and with the
property of the field `f` as the only choice for the identity. -/
theorem Entity.IdentifiedBy.choice {entity : String} {before after : List FieldGroup}
    {f : FieldGroup} {e : Entity} (identified : e.IdentifiedBy before f)
    (built : (buildEntity entity (before ++ f :: after)).result = .ok e) :
    ∃ p, f.property? = some p ∧ (∀ g ∈ before ++ f :: after, g.Sound) ∧
      ((before ++ f :: after).filterMap FieldGroup.property?).Pairwise Property.Apart ∧
      identityChoices ((before ++ f :: after).filterMap FieldGroup.property?) = [p] ∧
      e = ⟨entity, 0, 0, ((before ++ f :: after).filterMap FieldGroup.property?).map (·.beside p),
        some (before.filterMap FieldGroup.property?).length, .unassigned⟩ := by
  obtain ⟨sound, apart, q, i, choice, at_i, rfl⟩ := buildEntity_result_eq_ok_iff.1 built
  obtain ⟨p, property⟩ :=
    Option.isSome_iff_exists.1 ((sound f (by simp)).property identified.stored)
  have read : AllRead before := fun g hg => (sound g (List.mem_append_left _ hg)).property
  have position : i = (before.filterMap FieldGroup.property?).length := by
    have position := Option.some.inj identified.position
    rwa [read.stored, List.length_map] at position
  subst position
  rw [filterMap_property?_split property, List.getElem?_append_right (Nat.le_refl _), Nat.sub_self,
    List.getElem?_cons_zero] at at_i
  obtain rfl := Option.some.inj at_i
  exact ⟨p, property, sound, apart, choice, rfl⟩

/-- The only choice for the identity stays the only one among fewer properties. -/
theorem identityChoices_sublist {ps qs : List Property} {p : Property} (sub : qs.Sublist ps)
    (hp : p ∈ qs) (choice : identityChoices ps = [p]) : identityChoices qs = [p] := by
  have member : p ∈ identityChoices ps := by
    rw [choice]
    exact List.mem_singleton_self p
  have only : ∀ filtered : List Property, filtered.Sublist [p] → p ∈ filtered → filtered = [p] := by
    intro filtered sub mem
    rcases List.sublist_singleton.1 sub with rfl | rfl
    · cases mem
    · rfl
  by_cases marked : ∃ q ∈ ps, q.isMarked = true
  · obtain ⟨q, hq, qMarked⟩ := marked
    rw [identityChoices_of_marked hq qMarked] at choice member
    have pMarked := (List.mem_filter.1 member).2
    rw [identityChoices_of_marked hp pMarked]
    exact only _ (choice ▸ sub.filter _) (List.mem_filter.2 ⟨hp, pMarked⟩)
  · have unmarked : ∀ q ∈ ps, q.isMarked = false := by simpa using marked
    rw [identityChoices_of_unmarked unmarked] at choice member
    rw [identityChoices_of_unmarked fun q hq => unmarked q (sub.subset hq)]
    exact only _ (choice ▸ sub.filter _) (List.mem_filter.2 ⟨hp, (List.mem_filter.1 member).2⟩)

/-- Fields other than the identity can be left out.  If a struct can be built, then it can be built
without any of the fields before and behind its identity.  The fields that are left become the same
properties, in the same order, and the same field is the identity, at its new position. -/
theorem buildEntity_sublist {entity : String} {before after : List FieldGroup} {f : FieldGroup}
    {e : Entity} (built : (buildEntity entity (before ++ f :: after)).result = .ok e)
    (identified : e.IdentifiedBy before f) :
    ∃ property : FieldGroup → Option Property,
      (∀ g ∈ before ++ f :: after, (property g).isSome = g.stored?.isSome) ∧
      e.properties = (before ++ f :: after).filterMap property ∧
      ∀ left right, left.Sublist before → right.Sublist after →
        (buildEntity entity (left ++ f :: right)).result = .ok { e with
          properties := (left ++ f :: right).filterMap property
          identity := some (left.filterMap property).length } := by
  obtain ⟨p, property, sound, apart, choice, rfl⟩ := identified.choice built
  refine ⟨FieldGroup.propertyBeside? p, fun g hg => (sound g hg).propertyBeside?_isSome p,
    map_beside_filterMap_property? _ p, fun left right fewerBefore fewerAfter => ?_⟩
  have fewer : (left ++ f :: right).Sublist (before ++ f :: after) :=
    fewerBefore.append (fewerAfter.cons_cons f)
  have fewerProperties := fewer.filterMap FieldGroup.property?
  have split : (left ++ f :: right).filterMap FieldGroup.property? =
      left.filterMap FieldGroup.property? ++ p :: right.filterMap FieldGroup.property? :=
    filterMap_property?_split property
  rw [← map_beside_filterMap_property?, ← map_beside_filterMap_property?, List.length_map]
  refine buildEntity_result_eq_ok_iff.2 ⟨fun g hg => sound g (fewer.subset hg),
    apart.sublist fewerProperties, p, _, ?_, ?_, rfl⟩
  · exact identityChoices_sublist fewerProperties (by simp [split]) choice
  · simp [split]

/-- A field that is the identity by its name and its type. -/
def plainIdField : FieldGroup := ⟨["Id"], .ident "uint64", none⟩

/-- A field with an index, which can stand behind it. -/
def ratingField : FieldGroup := ⟨["Rating"], .ident "int32", some "\x60index\x60"⟩

/-- Without the fields before it the identity moves to the front, and what stands behind it stays. -/
theorem buildEntity_sublist_visitFields :
    ∃ e page key rating,
      (buildEntity "Visit" (visitFields.tail ++ plainIdField :: [ratingField])).result = .ok e ∧
      e.IdentifiedBy visitFields.tail plainIdField ∧
      e.properties = [page, key, rating] ∧ e.identity = some 1 ∧
      (buildEntity "Visit" ([] ++ plainIdField :: [ratingField])).result =
        .ok { e with properties := [key, rating], identity := some 0 } := by
  have position : (buildEntity "Visit" (visitFields.tail ++ plainIdField :: [ratingField])).result.map
      Entity.identity = .ok (some 1) := by
    decide +kernel
  obtain ⟨e, built, position⟩ := exists_of_map_eq_ok position
  have identified : e.IdentifiedBy visitFields.tail plainIdField := ⟨rfl, position.trans rfl⟩
  obtain ⟨property, stored, properties, fewer⟩ := buildEntity_sublist built identified
  have result := fewer [] [ratingField] (List.nil_sublist _) (List.Sublist.refl _)
  -- `Cache` is transient, so the properties are those of the three other fields.
  have all : (visitFields.tail ++ plainIdField :: [ratingField]).map
      (fun g => (property g).isSome) = [false, true, true, true] :=
    (List.map_congr_left stored).trans (by decide +kernel)
  simp only [visitFields, List.tail_cons, List.cons_append, List.nil_append, List.map_cons,
    List.map_nil, List.cons.injEq, Option.isSome_eq_false_iff, Option.isNone_iff_eq_none,
    Option.isSome_iff_exists, and_true] at all
  obtain ⟨cache, ⟨page, hp⟩, ⟨key, hk⟩, rating, hr⟩ := all
  refine ⟨e, page, key, rating, built, identified, ?_, position, ?_⟩
  · rw [properties]
    simp [visitFields, cache, hp, hk, hr]
  · rw [result]
    simp [hk, hr]

end EntityBinding
