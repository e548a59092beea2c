import EntityBinding.Model.Serialization
import EntityBinding.Proofs.Annotations
import Mathlib.Data.List.Forall2

/-!
# A binding can be read off its JSON value

Two JSON values are the same if they differ at most in the order of fields (`Json.Same`).  Lists are
compared place by place, and objects by what stands under each name, so that an object may hold its
fields in any order (`Json.Same.of_perm`).

Values are written *faithfully* if those that are written as the same JSON are the same
(`Json.Faithful`).

* Texts and numbers are, and so is what has a name that can be read back.
* Lists and values that may be missing are, if what is in them is.
* What stands under a fixed name of an object is, if it is by itself (`Json.Faithful.field`).  So a
  record is written faithfully if each of its fields is.
* The entries of a tag stand under names of their own, and they are determined by what is found
  under each (`Annotations.faithful_toJson`).

Put together, bindings are written as the same JSON only if they are the same
(`Binding.toJson_same_iff`).
-/

namespace EntityBinding

namespace Json

/-! ## Equality up to the order of fields -/

/-- Two JSON values are the same up to the order of fields. -/
inductive Same : Json → Json → Prop where
  | null : Same .null .null
  | bool (value : Bool) : Same (.bool value) (.bool value)
  | number (value : Int) : Same (.number value) (.number value)
  | string (value : String) : Same (.string value) (.string value)
  /-- Lists have the same values in the same order. -/
  | array {xs ys : List Json} : List.Forall₂ Same xs ys → Same (.array xs) (.array ys)
  /-- Objects have the same value under every name, or both have none. -/
  | object {fs gs : List (String × Json)} :
      (∀ name, Option.Rel Same (field? name fs) (field? name gs)) → Same (.object fs) (.object gs)

mutual

/-- A value is the same as itself. -/
theorem Same.refl : ∀ j : Json, Same j j
  | .null => .null
  | .bool value => .bool value
  | .number value => .number value
  | .string value => .string value
  | .array items => .array (Same.refl_items items)
  | .object fields => .object (Same.refl_fields fields)

theorem Same.refl_items : ∀ xs : List Json, List.Forall₂ Same xs xs
  | [] => .nil
  | x :: rest => .cons (Same.refl x) (Same.refl_items rest)

theorem Same.refl_fields : ∀ (fs : List (String × Json)) (name : String),
    Option.Rel Same (field? name fs) (field? name fs)
  | [], _ => .none
  | (n, v) :: rest, name => by
      rw [field?]
      split
      · exact .some (Same.refl v)
      · exact Same.refl_fields rest name

end

/-- The value of a field is what a list finds under its name. -/
theorem field?_eq_lookup (name : String) :
    ∀ fs : List (String × Json), field? name fs = fs.lookup name
  | [] => rfl
  | (n, v) :: rest => by
      simp only [field?, lookup_cons_eq_ite, field?_eq_lookup name rest, eq_comm]

/-- An object whose names are distinct is the same with its fields in any other order. -/
theorem Same.of_perm {fs gs : List (String × Json)} (distinct : (fs.map Prod.fst).Nodup)
    (perm : fs.Perm gs) : Same (.object fs) (.object gs) := by
  have distinct' : (gs.map Prod.fst).Nodup := (perm.map Prod.fst).nodup_iff.1 distinct
  have found : ∀ name, field? name fs = field? name gs := by
    intro name
    refine Option.ext fun v => ?_
    rw [field?_eq_lookup, field?_eq_lookup, ← mem_iff_lookup distinct, ← mem_iff_lookup distinct',
      perm.mem_iff]
  refine .object fun name => ?_
  rw [← found]
  exact Same.refl_fields fs name

theorem Same.eq_null {j : Json} (same : Same .null j) : j = .null := by
  cases same
  rfl

theorem Same.eq_null_of_right {j : Json} (same : Same j .null) : j = .null := by
  cases same
  rfl

/-! ## Faithful writing -/

variable {α β : Type} {write : α → Json}

/-- Values that are written as the same JSON are the same. -/
def Faithful (write : α → Json) : Prop := ∀ ⦃a b : α⦄, Same (write a) (write b) → a = b

theorem faithful_string : Faithful Json.string := by
  intro s t same
  cases same
  rfl

theorem faithful_number : Faithful Json.number := by
  intro m n same
  cases same
  rfl

/-- Distinct values that first become distinct texts or numbers are written faithfully. -/
theorem Faithful.comp {write : β → Json} (faithful : Faithful write) {f : α → β}
    (injective : Function.Injective f) : Faithful fun a => write (f a) :=
  fun _ _ same => injective (faithful same)

/-- Lists that are written the same have the same values at each place, and no more of them. -/
theorem Faithful.array (faithful : Faithful write) :
    Faithful fun xs : List α => .array (xs.map write) := by
  intro xs ys same
  cases same with
  | array items =>
      rw [List.forall₂_map_left_iff, List.forall₂_map_right_iff] at items
      exact List.forall₂_eq_eq_eq ▸ items.imp fun _ _ same => faithful same

/-- Two values that may be missing are the same if they are written the same. -/
theorem Faithful.eq_of_rel (faithful : Faithful write) {a b : Option α}
    (same : Option.Rel Same (a.map write) (b.map write)) : a = b := by
  cases a with
  | none =>
      cases b with
      | none => rfl
      | some b => cases same
  | some a =>
      cases b with
      | none => cases same
      | some b =>
          cases same with
          | some same => rw [faithful same]

/-- A missing value is told from one that is there if none is written as `null`. -/
theorem Faithful.ofOption (faithful : Faithful write) (present : ∀ a, write a ≠ .null) :
    Faithful (Json.ofOption write) := by
  intro a b same
  cases a with
  | none =>
      cases b with
      | none => rfl
      | some b => exact absurd same.eq_null (present b)
  | some a =>
      cases b with
      | none => exact absurd same.eq_null_of_right (present a)
      | some b => rw [faithful same]

/-- Objects that are the same have the same value under a name. -/
theorem Faithful.field (faithful : Faithful write) {fs gs : List (String × Json)}
    (same : Same (.object fs) (.object gs)) (name : String) {a b : α}
    (left : field? name fs = some (write a)) (right : field? name gs = some (write b)) :
    a = b := by
  cases same with
  | object values =>
      have value := values name
      rw [left, right] at value
      exact Option.some.inj (faithful.eq_of_rel (a := some a) (b := some b) value)

/-- An object with one text is written faithfully. -/
theorem faithful_record (name : String) :
    Faithful fun value : String => .object [(name, .string value)] := by
  intro s t same
  exact faithful_string.field same name (by simp [field?]) (by simp [field?])

/-- What has a name that can be read back is written faithfully by its name. -/
theorem faithful_name {name : α → String} {ofName? : String → Option α}
    (readBack : ∀ a, ofName? (name a) = some a) : Faithful fun a => .string (name a) := by
  intro a b same
  have names : name a = name b := faithful_string same
  rw [← Option.some_inj, ← readBack a, names, readBack b]

theorem faithful_natural : Faithful fun n : Nat => .number n :=
  faithful_number.comp fun _ _ => Int.ofNat.inj

theorem faithful_id : Faithful fun id : UInt32 => .number id.toNat :=
  faithful_natural.comp fun _ _ => UInt32.toNat_inj.1

theorem faithful_uid : Faithful fun uid : UInt64 => .number uid.toNat :=
  faithful_natural.comp fun _ _ => UInt64.toNat_inj.1

end Json

/-! ## Names -/

theorem StorageType.ofName?_name (t : StorageType) : ofName? t.name = some t := by
  cases t <;> rfl

theorem BufferType.ofName?_name (t : BufferType) : ofName? t.name = some t := by
  cases t <;> rfl

theorem Flag.ofName?_name (f : Flag) : ofName? f.name = some f := by
  cases f <;> rfl

/-! ## The model -/

open Json (Faithful faithful_string faithful_name faithful_natural faithful_id faithful_uid
  faithful_record)

theorem IdPair.faithful_toJson : Faithful IdPair.toJson := by
  intro p q same
  have id : p.id = q.id := faithful_id.field same "id" rfl rfl
  have uid : p.uid = q.uid := faithful_uid.field same "uid" rfl rfl
  cases p
  cases q
  rw [IdPair.mk.injEq]
  exact ⟨id, uid⟩

/-- Under a name of the object stands what the tag gives to the name. -/
theorem Annotations.field?_entries (name : String) : ∀ es : List (String × String),
    Json.field? name (es.map fun e => (e.1, .object [("value", .string e.2)])) =
      (es.lookup name).map fun value => .object [("value", .string value)]
  | [] => rfl
  | (n, v) :: rest => by
      rw [List.map_cons, Json.field?, Annotations.field?_entries name rest, lookup_cons_eq_ite]
      by_cases here : n = name
      · rw [if_pos here, if_pos here.symm]
        rfl
      · rw [if_neg here, if_neg fun same => here same.symm]

theorem Annotations.faithful_toJson : Faithful Annotations.toJson := by
  intro a b same
  refine ext_get? fun name => ?_
  cases same with
  | object values =>
      have value := values name
      rw [field?_entries, field?_entries] at value
      exact (faithful_record "value").eq_of_rel value

theorem Property.faithful_toJson : Faithful Property.toJson := by
  intro p q same
  have name : p.name = q.name := faithful_string.field same "name" rfl rfl
  have storageName : p.storageName = q.storageName := faithful_string.field same "ob_name" rfl rfl
  have id : p.id = q.id := faithful_id.field same "id" rfl rfl
  have uid : p.uid = q.uid := faithful_uid.field same "uid" rfl rfl
  have annotations : p.annotations = q.annotations :=
    Annotations.faithful_toJson.field same "annotations" rfl rfl
  have storageType : p.storageType = q.storageType :=
    (faithful_name StorageType.ofName?_name).field same "ob_type" rfl rfl
  have flags : p.flags = q.flags :=
    (faithful_name Flag.ofName?_name).array.field same "ob_flags" rfl rfl
  have declaredType : p.declaredType = q.declaredType :=
    faithful_string.field same "host_type" rfl rfl
  have bufferType : p.bufferType = q.bufferType :=
    (faithful_name BufferType.ofName?_name).field same "fb_type" rfl rfl
  have relation : p.relation = q.relation :=
    ((faithful_record "target").ofOption fun _ => nofun).field same "relation" rfl rfl
  have index : p.index = q.index :=
    (IdPair.faithful_toJson.ofOption fun _ => nofun).field same "index" rfl rfl
  cases p
  cases q
  rw [Property.mk.injEq]
  exact ⟨name, storageName, id, uid, annotations, storageType, flags, declaredType, bufferType,
    relation, index⟩

theorem Entity.faithful_toJson : Faithful Entity.toJson := by
  intro e d same
  have name : e.name = d.name := faithful_string.field same "name" rfl rfl
  have id : e.id = d.id := faithful_id.field same "id" rfl rfl
  have uid : e.uid = d.uid := faithful_uid.field same "uid" rfl rfl
  have properties : e.properties = d.properties :=
    Property.faithful_toJson.array.field same "properties" rfl rfl
  have identity : e.identity = d.identity :=
    (faithful_natural.ofOption fun _ => nofun).field same "id_property" rfl rfl
  have lastPropertyId : e.lastPropertyId = d.lastPropertyId :=
    IdPair.faithful_toJson.field same "last_property_id" rfl rfl
  cases e
  cases d
  rw [Entity.mk.injEq]
  exact ⟨name, id, uid, properties, identity, lastPropertyId⟩

theorem Binding.faithful_toJson : Faithful Binding.toJson := by
  intro b c same
  have package : b.package = c.package := faithful_string.field same "package" rfl rfl
  have entities : b.entities = c.entities :=
    Entity.faithful_toJson.array.field same "entities" rfl rfl
  cases b
  cases c
  rw [Binding.mk.injEq]
  exact ⟨package, entities⟩

/-- Bindings are written as the same JSON value, whatever the order of the fields, if and only if
they are the same. -/
theorem Binding.toJson_same_iff (b c : Binding) : b.toJson.Same c.toJson ↔ b = c := by
  constructor
  · intro same
    exact faithful_toJson same
  · rintro rfl
    exact .refl _

end EntityBinding
