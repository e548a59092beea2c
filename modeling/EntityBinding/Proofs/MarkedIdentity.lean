import EntityBinding.Proofs.Annotations
import EntityBinding.Proofs.FieldList
import EntityBinding.Proofs.IndexRules
import EntityBinding.Proofs.Resolution

/-!
# Marking the identity

An identity comes about in one of two ways.  A field that is marked `id` has the flag of an
identity from the rules for its tag, before its other flags, and is the identity as soon as it
joins the draft.  An identity that is not marked is found among the properties of the finished
draft, and gets the flag behind its other flags.

Both come to the same.  Of all that is made of a tag only the flags depend on the entry `id`
(`FieldGroup.Becomes.mark`), and a property that joins as the only marked one is apart from the
others as it was before (`pairwise_apart_mark`).  So an inferred identity can be marked, and this
only moves its flag from the end to the front (`buildEntity_markIdentity`).
-/

namespace EntityBinding

/-! ## The entry -/

/-- With the entry `id` a tag asks for the flag of an identity in front of its other flags. -/
theorem Annotations.flags_insert_id {a : Annotations} (value : String)
    (unmarked : a.contains "id" = false) : (a.insert "id" value).flags = .id :: a.flags := by
  have index : (a.insert "id" value).indexFlags = a.indexFlags := by
    rw [indexFlags, a.get?_insert_of_ne value (by decide), indexFlags]
  have unique : (a.insert "id" value).uniqueFlags = a.uniqueFlags := by
    rw [uniqueFlags, a.contains_insert_of_ne value (by decide), uniqueFlags]
  rw [flags, flags, index, unique, idFlags, idFlags, a.contains_insert_self, unmarked]
  rfl

/-- The property with the entry `id`, and with the flag of an identity in front of the others. -/
def Property.mark (p : Property) (value : String) : Property :=
  { p with
    annotations := p.annotations.insert "id" value
    flags := .id :: p.flags }

theorem Property.isMarked_mark (p : Property) (value : String) : (p.mark value).isMarked = true :=
  p.annotations.contains_insert_self "id" value

theorem Property.indexRequests_mark (p : Property) (value : String) :
    (p.mark value).indexRequests = p.indexRequests := by
  simp only [indexRequests, mark, p.annotations.contains_insert_of_ne value
    (show "index" ≠ "id" by decide), p.annotations.contains_insert_of_ne value
    (show "unique" ≠ "id" by decide)]

theorem Property.asksUnknownKind_mark {p : Property} {value kind : String} :
    (p.mark value).AsksUnknownKind kind ↔ p.AsksUnknownKind kind := by
  rw [AsksUnknownKind, AsksUnknownKind, mark, p.annotations.get?_insert_of_ne value (by decide)]

/-! ## The field -/

namespace FieldGroup

variable {f : FieldGroup} {p : Property} {new value : String}

/-- With the entry `id` in its tag a field becomes the same property, marked. -/
theorem Becomes.mark (becomes : f.Becomes p) (unmarked : p.isMarked = false)
    (tag : Tag.parse new = .ok (p.annotations.insert "id" value)) :
    { f with tag := some new }.Becomes (p.mark value) where
  names := becomes.names
  tag := tag
  stored := (p.annotations.contains_insert_of_ne value (by decide)).trans becomes.stored
  types := by
    have date : (p.annotations.insert "id" value).contains "date" = p.annotations.contains "date" :=
      p.annotations.contains_insert_of_ne value (by decide)
    have link : (p.annotations.insert "id" value).get? "link" = p.annotations.get? "link" :=
      p.annotations.get?_insert_of_ne value (by decide)
    exact (resolveType_congr date link f.type).trans becomes.types
  storageName := by
    show p.storageName = storageNameOf p.name (p.annotations.insert "id" value)
    rw [storageNameOf, p.annotations.get?_insert_of_ne value (by decide)]
    exact becomes.storageName
  flags := by
    show .id :: p.flags = (p.annotations.insert "id" value).flags
    rw [Annotations.flags_insert_id value unmarked, becomes.flags]
  requests := by
    rw [p.indexRequests_mark]
    exact becomes.requests
  index := by
    rw [p.indexRequests_mark]
    exact becomes.index
  id := becomes.id
  uid := becomes.uid

theorem property?_mark (property : f.property? = some p) (unmarked : p.isMarked = false)
    (tag : Tag.parse new = .ok (p.annotations.insert "id" value)) :
    { f with tag := some new }.property? = some (p.mark value) := by
  obtain ⟨r, -, derived⟩ := derived_of_property? property
  have known := (Property.deriveFlags_failure_eq_none_iff.1 derived).1
  exact ((becomes_of_property? property).mark unmarked tag).property?
    fun kind asks => known kind (Property.asksUnknownKind_mark.1 asks)

/-- A sound field stays sound. -/
theorem Sound.mark (sound : f.Sound) (property : f.property? = some p)
    (unmarked : p.isMarked = false)
    (tag : Tag.parse new = .ok (p.annotations.insert "id" value)) :
    { f with tag := some new }.Sound := by
  have property' := property?_mark property unmarked tag
  refine ⟨sound.names, ⟨_, tag⟩, fun _ => by simp [property'], fun name a stored empty => ?_⟩
  cases (stored?_of_property? property').symm.trans stored
  rw [Property.mark, p.annotations.get?_insert_of_ne value (by decide)] at empty
  exact sound.storageName _ _ (stored?_of_property? property) empty

end FieldGroup

/-! ## The entity -/

/-- A property that becomes the only marked one stays apart from the others. -/
theorem pairwise_apart_mark {left right : List Property} {p : Property} (value : String)
    (unmarked : ∀ q ∈ left ++ p :: right, q.isMarked = false)
    (apart : (left ++ p :: right).Pairwise Property.Apart) :
    (left ++ p.mark value :: right).Pairwise Property.Apart := by
  obtain ⟨apartLeft, apartTail, across⟩ := List.pairwise_append.1 apart
  obtain ⟨apartHead, apartRight⟩ := List.pairwise_cons.1 apartTail
  refine List.pairwise_append.2
    ⟨apartLeft, List.pairwise_cons.2 ⟨fun q hq => ?_, apartRight⟩, fun q hq r hr => ?_⟩
  · refine ⟨(apartHead q hq).1, fun both => ?_⟩
    rw [unmarked q (by simp [hq])] at both
    exact Bool.false_ne_true both.2
  · rcases List.mem_cons.1 hr with rfl | hr
    · refine ⟨(across q hq p List.mem_cons_self).1, fun both => ?_⟩
      rw [unmarked q (by simp [hq])] at both
      exact Bool.false_ne_true both.1
    · exact across q hq r (List.mem_cons_of_mem p hr)

/-- A struct in which no property is marked can be built with any one of its fields marked. -/
theorem buildEntity_mark (entity : String) {new value : String} {before after : List FieldGroup}
    {f : FieldGroup} {p : Property} (sound : ∀ g ∈ before ++ f :: after, g.Sound)
    (property : f.property? = some p)
    (unmarked : ∀ q ∈ (before ++ f :: after).filterMap FieldGroup.property?, q.isMarked = false)
    (apart : ((before ++ f :: after).filterMap FieldGroup.property?).Pairwise Property.Apart)
    (tag : Tag.parse new = .ok (p.annotations.insert "id" value)) :
    (buildEntity entity (before ++ { f with tag := some new } :: after)).result =
      .ok ⟨entity, 0, 0, before.filterMap FieldGroup.property? ++
          p.mark value :: after.filterMap FieldGroup.property?,
        some (before.filterMap FieldGroup.property?).length, .unassigned⟩ := by
  rw [filterMap_property?_split property] at unmarked apart
  have pUnmarked := unmarked p (by simp)
  have marked := FieldGroup.property?_mark property pUnmarked tag
  have apart' := pairwise_apart_mark value unmarked apart
  have pMarked := p.isMarked_mark value
  have sound' : ∀ g ∈ before ++ { f with tag := some new } :: after, g.Sound := by
    intro g hg
    rcases List.mem_append.1 hg with hg | hg
    · exact sound g (List.mem_append_left _ hg)
    · rcases List.mem_cons.1 hg with rfl | hg
      · exact (sound f (by simp)).mark property pUnmarked tag
      · exact sound g (by simp [hg])
  rw [buildEntity_result_eq_ok_iff, filterMap_property?_split marked]
  refine ⟨sound', apart', p.mark value, (before.filterMap FieldGroup.property?).length, ?_, ?_, ?_⟩
  · rw [identityChoices_of_marked (by simp) pMarked,
      filter_isMarked_eq_singleton apart' (by simp) pMarked]
  · simp
  · rw [map_beside_of_marked _ pMarked]

/-- An inferred identity can be marked.  If no stored field of a struct is marked and the struct
can be built, then it can be built as well with the entry `id` in the tag of its identity.  The
same property is the identity, and it has got the entry, with its flag in front of its other flags
instead of behind them.  Nothing else changes. -/
theorem buildEntity_markIdentity {entity new value : String} {before after : List FieldGroup}
    {f : FieldGroup} {e : Entity} {a : Annotations}
    (built : (buildEntity entity (before ++ f :: after)).result = .ok e)
    (unmarked : markedNames (before ++ f :: after) = []) (identified : e.IdentifiedBy before f)
    (old : Tag.parseOptional f.tag = .ok a) (tag : Tag.parse new = .ok (a.insert "id" value)) :
    ∃ left p right flags, e.properties = left ++ p :: right ∧ e.identity = some left.length ∧
      p.annotations = a ∧ a.contains "id" = false ∧ p.flags = flags ++ [.id] ∧
      (buildEntity entity (before ++ { f with tag := some new } :: after)).result = .ok { e with
        properties := left ++ { p with
          annotations := p.annotations.insert "id" value
          flags := .id :: flags } :: right } := by
  obtain ⟨p, property, sound, apart, -, rfl⟩ := identified.choice built
  obtain rfl : p.annotations = a :=
    Except.ok.inj ((FieldGroup.becomes_of_property? property).tag.symm.trans old)
  have read : AllRead (before ++ f :: after) := fun g hg => (sound g hg).property
  rw [read.markedNames, List.map_eq_nil_iff, List.filter_eq_nil_iff] at unmarked
  have unmarked : ∀ q ∈ (before ++ f :: after).filterMap FieldGroup.property?,
      q.isMarked = false := fun q hq => Bool.eq_false_iff.2 (unmarked q hq)
  have pUnmarked := unmarked p (by simp [filterMap_property?_split property])
  have inferred : ((before ++ f :: after).filterMap FieldGroup.property?).map (·.beside p) =
      before.filterMap FieldGroup.property? ++
        p.addFlag .id :: after.filterMap FieldGroup.property? := by
    have nodup := nodup_of_pairwise_apart apart
    rw [filterMap_property?_split property] at nodup ⊢
    rw [map_beside_of_unmarked nodup (i := (before.filterMap FieldGroup.property?).length)
      (by simp) pUnmarked]
    exact modify_append_cons _ p _ _
  exact ⟨_, p.addFlag .id, _, p.flags, inferred, rfl, rfl, pUnmarked, rfl,
    buildEntity_mark entity sound property unmarked apart tag⟩

/-- A field that is the identity by its name and its type, with a date and an index. -/
def datedIdField : FieldGroup :=
  ⟨["ID"], .ident "uint64", some "\x60date index:\"hash\"\x60"⟩

/-- Its flag stands behind those of its index, or, if the field is marked, in front of them. -/
theorem buildEntity_markIdentity_datedIdField :
    ∃ e left p right,
      (buildEntity "Visit" ([ratingField] ++ datedIdField :: visitFields.tail)).result = .ok e ∧
      e.properties = left ++ p :: right ∧ left.length = 1 ∧
      p.flags = [.indexed, .indexHash, .id] ∧
      (buildEntity "Visit" ([ratingField] ++ { datedIdField with
        tag := some "\x60ID date index:\"hash\"\x60" } :: visitFields.tail)).result =
          .ok { e with properties := left ++ { p with
            annotations := p.annotations.insert "id" ""
            flags := [.id, .indexed, .indexHash] } :: right } := by
  have summary : (buildEntity "Visit" ([ratingField] ++ datedIdField :: visitFields.tail)).result.map
      (fun e => (e.identity, e.properties.map Property.flags)) =
        .ok (some 1, [[.indexed], [.indexed, .indexHash, .id], [.unique]]) := by
    decide +kernel
  obtain ⟨e, built, summary⟩ := exists_of_map_eq_ok summary
  obtain ⟨position, allFlags⟩ := Prod.mk.inj summary
  have old : Tag.parseOptional datedIdField.tag =
      .ok ⟨[("date", ""), ("index", "hash")], by decide +kernel⟩ := by
    decide +kernel
  have tag : Tag.parse "\x60ID date index:\"hash\"\x60" = .ok (Annotations.insert
      ⟨[("date", ""), ("index", "hash")], by decide +kernel⟩ "id" "") := by
    decide +kernel
  obtain ⟨left, p, right, flags, properties, position', -, -, last, result⟩ :=
    buildEntity_markIdentity built (by decide +kernel) ⟨rfl, position.trans rfl⟩ old tag
  have length : left.length = 1 := Option.some.inj (position'.symm.trans position)
  obtain ⟨q, rfl⟩ := List.length_eq_one_iff.1 length
  have ofIdentity : p.flags = [.indexed, .indexHash, .id] := by
    simp only [properties, List.map_cons, List.cons_append, List.nil_append,
      List.cons.injEq] at allFlags
    exact allFlags.2.1
  have front : flags = [.indexed, .indexHash] :=
    List.append_cancel_right (last.symm.trans ofIdentity)
  refine ⟨e, [q], p, right, built, properties, rfl, ofIdentity, ?_⟩
  rw [result, front]

end EntityBinding
