import EntityBinding.Discovery.Build
import EntityBinding.Proofs.IndexRules
import EntityBinding.Proofs.Outcome
import Mathlib.Data.List.Induction

/-!
# The checks of a field

A field of a struct may fail seven checks (`Check`).  `Check.error?` gives the error of one
check of a field that comes after some others.  It looks at the field and at the fields
before it and at nothing else, so the state of a build plays no part in it.

A field is *stored* if it declares one name and has a readable tag that does not say
`transient` (`FieldGroup.stored?`).  The first two checks are made of every field, the
others of stored fields.  `FieldGroup.Offends` says which check of a field is the first to
fail, and `AllPass` that no field of a list fails any.  If some do, there is a first one
(`allPass_or_offends`).

`FieldGroup.property?` is the property that a field becomes by itself, and
`FieldGroup.Becomes` says what such a property holds.
-/

namespace EntityBinding

open Text (lowercaseString)

/-! ## Stored fields -/

/-- The declared name of a stored field, with the entries of its tag. -/
def FieldGroup.stored? (f : FieldGroup) : Option (String × Annotations) :=
  match f.names, Tag.parseOptional f.tag with
  | [name], .ok a => if a.contains "transient" then none else some (name, a)
  | _, _ => none

/-- The storage name of a field: what its tag says, or else its declared name. -/
def storageNameOf (name : String) (a : Annotations) : String := (a.get? "nameindb").getD name

/-- The declared names of the stored fields that are marked `id`. -/
def markedNames (fields : List FieldGroup) : List String :=
  ((fields.filterMap FieldGroup.stored?).filter fun s => s.2.contains "id").map Prod.fst

/-- The storage names of the stored fields, in small letters. -/
def takenNames (fields : List FieldGroup) : List String :=
  (fields.filterMap FieldGroup.stored?).map fun s => lowercaseString (storageNameOf s.1 s.2)

/-- The property of a field before the flag rules. -/
def Property.declare (name : String) (a : Annotations) (r : ResolvedType) : Property :=
  { Property.new name r.declaredType r.storageType r.bufferType with
    annotations := a
    relation := r.relation }

/-! ## Checks -/

/-- A check that a field has to pass. -/
inductive Check where
  /-- The field declares one name. -/
  | names
  /-- Its tag can be read. -/
  | tag
  /-- Its type can be resolved. -/
  | type
  /-- Its flags can be derived. -/
  | flags
  /-- It is not a second identity. -/
  | identity
  /-- The storage name that its tag gives it is not empty. -/
  | storageName
  /-- No field before it has its storage name. -/
  | uniqueName
  deriving Repr, DecidableEq

namespace Check

/-- The checks in the order in which they count. -/
def all : List Check := [names, tag, type, flags, identity, storageName, uniqueName]

theorem mem_all (c : Check) : c ∈ all := by
  cases c <;> simp [all]

/-- The error of a check of a stored field with a type that comes after the fields `earlier`. -/
def storedError? (entity : String) (earlier : List FieldGroup) (type : TypeExpr) (name : String)
    (a : Annotations) : Check → Option DiscoveryError
  | names | tag => none
  | .type =>
      match resolveType type a with
      | .ok _ => none
      | .error cause => some (.property entity name cause)
  | flags =>
      match resolveType type a with
      | .ok r => (Property.declare name a r).deriveFlags.failure.map (.property entity name)
      | .error _ => none
  | identity =>
      if a.contains "id" then
        (markedNames earlier).head?.map fun first => .multipleIds entity first name
      else
        none
  | storageName =>
      if a.get? "nameindb" = some "" then some (.property entity name .emptyStorageName) else none
  | uniqueName =>
      if lowercaseString (storageNameOf name a) ∈ takenNames earlier then
        some (.property entity name .duplicateStorageName)
      else
        none

/-- The error of a check of a field that comes after the fields `earlier`, if it fails. -/
def error? (entity : String) (earlier : List FieldGroup) (f : FieldGroup) (c : Check) :
    Option DiscoveryError :=
  match c with
  | names =>
      if f.names.length = 1 then none else some (.invalidFieldNames entity f.names.length)
  | tag =>
      match f.names, Tag.parseOptional f.tag with
      | [name], .error cause => some (.property entity name cause)
      | _, _ => none
  | c => f.stored?.bind fun s => c.storedError? entity earlier f.type s.1 s.2

end Check

/-- A field after some others passes every check. -/
def FieldGroup.Passes (f : FieldGroup) (entity : String) (earlier : List FieldGroup) : Prop :=
  ∀ c, Check.error? entity earlier f c = none

/-- The first check that a field after some others fails is `c`, with the error `e`. -/
def FieldGroup.Offends (f : FieldGroup) (entity : String) (earlier : List FieldGroup) (c : Check)
    (e : DiscoveryError) : Prop :=
  c.error? entity earlier f = some e ∧
    ∃ before after, Check.all = before ++ c :: after ∧
      ∀ b ∈ before, b.error? entity earlier f = none

/-- Every field of a list passes every check, after the fields before it. -/
def AllPass (entity : String) (fields : List FieldGroup) : Prop :=
  ∀ before f after, fields = before ++ f :: after → f.Passes entity before

/-- The error of the first check that a field after some others fails, if it fails one. -/
def FieldGroup.offence? (f : FieldGroup) (entity : String) (earlier : List FieldGroup) :
    Option DiscoveryError :=
  Check.all.findSome? (Check.error? entity earlier f)

theorem FieldGroup.offence?_eq_none {f : FieldGroup} {entity : String}
    {earlier : List FieldGroup} : f.offence? entity earlier = none ↔ f.Passes entity earlier := by
  rw [offence?, Passes]
  rw [List.findSome?_eq_none_iff]
  exact ⟨fun h c => h c c.mem_all, fun h c _ => h c⟩

theorem FieldGroup.offence?_eq_some {f : FieldGroup} {entity : String}
    {earlier : List FieldGroup} {e : DiscoveryError} :
    f.offence? entity earlier = some e ↔ ∃ c, f.Offends entity earlier c e := by
  simp only [offence?, Offends]
  rw [List.findSome?_eq_some_iff]
  constructor
  · rintro ⟨before, c, after, split, fails, pass⟩
    exact ⟨c, fails, before, after, split, pass⟩
  · rintro ⟨c, fails, before, after, split, pass⟩
    exact ⟨before, c, after, split, fails, pass⟩

theorem allPass_nil (entity : String) : AllPass entity [] := by
  intro before f after split
  simp at split

theorem AllPass.left {entity : String} {xs ys : List FieldGroup} (pass : AllPass entity (xs ++ ys)) :
    AllPass entity xs := by
  rintro before f after rfl
  exact pass before f (after ++ ys) (by simp)

/-- One more field passes if it does so after those before it. -/
theorem allPass_append_singleton {entity : String} {earlier : List FieldGroup} {f : FieldGroup} :
    AllPass entity (earlier ++ [f]) ↔ AllPass entity earlier ∧ f.Passes entity earlier := by
  constructor
  · exact fun pass => ⟨pass.left, pass earlier f [] rfl⟩
  · rintro ⟨pass, last⟩ before g after split
    rcases List.eq_nil_or_concat after with rfl | ⟨more, h, rfl⟩
    · obtain ⟨rfl, same⟩ := List.append_inj' split rfl
      cases same
      exact last
    · rw [List.concat_eq_append, ← List.cons_append, ← List.append_assoc] at split
      obtain ⟨rfl, -⟩ := List.append_inj' split rfl
      exact pass before g more rfl

/-- Either all fields of a list pass, or there is a first one that does not. -/
theorem allPass_or_offends (entity : String) (fields : List FieldGroup) :
    AllPass entity fields ∨ ∃ before f after c e, fields = before ++ f :: after ∧
      AllPass entity before ∧ f.Offends entity before c e := by
  induction fields using List.reverseRecOn with
  | nil => exact .inl (allPass_nil entity)
  | append_singleton earlier last ih =>
      rcases ih with pass | ⟨before, f, after, c, e, rfl, pass, offends⟩
      · cases offence : last.offence? entity earlier with
        | none =>
            exact .inl (allPass_append_singleton.2 ⟨pass, FieldGroup.offence?_eq_none.1 offence⟩)
        | some e =>
            obtain ⟨c, offends⟩ := FieldGroup.offence?_eq_some.1 offence
            exact .inr ⟨earlier, last, [], c, e, rfl, pass, offends⟩
      · exact .inr ⟨before, f, after ++ [last], c, e, by simp, pass, offends⟩

/-! ## Levels of errors -/

/-- Whether an error is that of a field of an entity. -/
def DiscoveryError.isFieldLevel : DiscoveryError → Bool
  | invalidFieldNames .. | multipleIds .. | property .. => true
  | _ => false

/-- Whether an error is that of an entity as a whole. -/
def DiscoveryError.isEntityLevel : DiscoveryError → Bool
  | emptyEntity .. | missingId .. | ambiguousId .. => true
  | _ => false

theorem DiscoveryError.isEntityLevel_of_isFieldLevel {e : DiscoveryError}
    (field : e.isFieldLevel = true) : e.isEntityLevel = false := by
  cases e with
  | invalidFieldNames => rfl
  | multipleIds => rfl
  | property => rfl
  | _ => cases field

theorem Check.storedError?_isFieldLevel {entity name : String} {earlier : List FieldGroup}
    {type : TypeExpr} {a : Annotations} {c : Check} {e : DiscoveryError}
    (h : c.storedError? entity earlier type name a = some e) : e.isFieldLevel = true := by
  cases c with
  | names => cases h
  | tag => cases h
  | type =>
      simp only [storedError?] at h
      split at h
      · cases h
      · cases h
        rfl
  | flags =>
      simp only [storedError?] at h
      split at h
      · obtain ⟨cause, -, rfl⟩ := Option.map_eq_some_iff.1 h
        rfl
      · cases h
  | identity =>
      simp only [storedError?] at h
      split at h
      · obtain ⟨first, -, rfl⟩ := Option.map_eq_some_iff.1 h
        rfl
      · cases h
  | storageName =>
      simp only [storedError?] at h
      split at h
      · cases h
        rfl
      · cases h
  | uniqueName =>
      simp only [storedError?] at h
      split at h
      · cases h
        rfl
      · cases h

/-- The error of a check is that of a field. -/
theorem Check.error?_isFieldLevel {entity : String} {earlier : List FieldGroup} {f : FieldGroup}
    {c : Check} {e : DiscoveryError} (h : c.error? entity earlier f = some e) :
    e.isFieldLevel = true := by
  have ofStored : (f.stored?.bind fun s => c.storedError? entity earlier f.type s.1 s.2) = some e →
      e.isFieldLevel = true := by
    intro h
    obtain ⟨s, -, hs⟩ := Option.bind_eq_some_iff.1 h
    exact storedError?_isFieldLevel hs
  cases c with
  | names =>
      simp only [error?] at h
      split at h
      · cases h
      · cases h
        rfl
  | tag =>
      simp only [error?] at h
      split at h
      · cases h
        rfl
      · cases h
  | type => exact ofStored h
  | flags => exact ofStored h
  | identity => exact ofStored h
  | storageName => exact ofStored h
  | uniqueName => exact ofStored h

/-! ## The property of a field -/

/-- The property that a field becomes, if it is stored, has a type and gets its flags. -/
def FieldGroup.property? (f : FieldGroup) : Option Property :=
  match f.stored? with
  | none => none
  | some (name, a) =>
      match resolveType f.type a with
      | .error _ => none
      | .ok r =>
          let derived := (Property.declare name a r).deriveFlags
          if derived.failure = none then
            some { derived.property with storageName := storageNameOf name a }
          else
            none

/-- `f.Becomes p` says that the field `f` is stored as the property `p`. -/
structure FieldGroup.Becomes (f : FieldGroup) (p : Property) : Prop where
  /-- The field declares the name of the property alone. -/
  names : f.names = [p.name]
  /-- The property has the entries of the tag. -/
  tag : Tag.parseOptional f.tag = .ok p.annotations
  /-- The field is not transient. -/
  stored : p.annotations.contains "transient" = false
  /-- The types and the target are those that the field is resolved to. -/
  types : resolveType f.type p.annotations =
    .ok ⟨p.declaredType, p.storageType, p.bufferType, p.relation⟩
  /-- The storage name is that of the tag, or else the declared name. -/
  storageName : p.storageName = storageNameOf p.name p.annotations
  /-- The flags are those that the tag asks for. -/
  flags : p.flags = p.annotations.flags
  /-- At most one rule asks for an index. -/
  requests : p.indexRequests ≤ 1
  /-- The index is a new one, if a rule asks for it. -/
  index : p.index = if p.indexRequests = 1 then some .unassigned else none
  /-- The property has no id. -/
  id : p.id = 0
  /-- The property has no unique id. -/
  uid : p.uid = 0

theorem FieldGroup.stored?_eq_some {f : FieldGroup} {name : String} {a : Annotations} :
    f.stored? = some (name, a) ↔
      f.names = [name] ∧ Tag.parseOptional f.tag = .ok a ∧ a.contains "transient" = false := by
  rw [stored?]
  constructor
  · intro h
    split at h
    next n b names tag =>
      cases ht : b.contains "transient" with
      | true => simp [ht] at h
      | false =>
          simp only [ht, Bool.false_eq_true, if_false, Option.some.injEq, Prod.mk.injEq] at h
          obtain ⟨rfl, rfl⟩ := h
          exact ⟨names, tag, ht⟩
    next => cases h
  · rintro ⟨names, tag, stored⟩
    simp [names, tag, stored]

theorem FieldGroup.property?_of_not_stored {f : FieldGroup} (h : f.stored? = none) :
    f.property? = none := by
  simp only [property?, h]

/-- The property of a field holds what the field says. -/
theorem FieldGroup.becomes_of_property? {f : FieldGroup} {p : Property}
    (h : f.property? = some p) : f.Becomes p := by
  rw [property?] at h
  split at h
  next => cases h
  next name a stored =>
    obtain ⟨names, tag, notTransient⟩ := stored?_eq_some.1 stored
    split at h
    next => cases h
    next r resolved =>
      dsimp only at h
      split at h
      next ok =>
        obtain ⟨derived, room⟩ := Property.deriveFlags_property ok
        rw [derived] at h
        cases h
        refine ⟨names, tag, notTransient, resolved, rfl, rfl, ?_, ?_, rfl, rfl⟩
        · show (Property.declare name a r).indexRequests ≤ 1
          omega
        · show (if (Property.declare name a r).indexRequests = 0 then none
            else some IdPair.unassigned) = if (Property.declare name a r).indexRequests = 1 then
              some IdPair.unassigned else none
          rcases room with room | ⟨room, -⟩
          · simp [room]
          · simp [room]
      next => cases h

/-- What a field says is all that its property holds. -/
theorem FieldGroup.Becomes.eq {f : FieldGroup} {p : Property} (becomes : f.Becomes p) :
    { Property.declare p.name p.annotations
        ⟨p.declaredType, p.storageType, p.bufferType, p.relation⟩ with
      storageName := storageNameOf p.name p.annotations
      flags := p.annotations.flags
      index := if p.indexRequests = 1 then some .unassigned else none } = p := by
  rw [← becomes.storageName, ← becomes.flags, ← becomes.index]
  have id := becomes.id
  have uid := becomes.uid
  cases p
  cases id
  cases uid
  rfl

/-- A field becomes a property that holds what the field says, if its kind of index exists. -/
theorem FieldGroup.Becomes.property? {f : FieldGroup} {p : Property} (becomes : f.Becomes p)
    (known : ∀ value, ¬p.AsksUnknownKind value) : f.property? = some p := by
  have stored := stored?_eq_some.2 ⟨becomes.names, becomes.tag, becomes.stored⟩
  have room : p.indexRequests = 0 ∨ p.indexRequests = 1 := by
    have few := becomes.requests
    omega
  have ok : (Property.declare p.name p.annotations
      ⟨p.declaredType, p.storageType, p.bufferType, p.relation⟩).deriveFlags.failure = none :=
    Property.deriveFlags_failure_eq_none_iff.2
      ⟨known, room.imp (fun none => none) fun one => ⟨one, rfl⟩⟩
  have index : (if p.indexRequests = 0 then none else some IdPair.unassigned) =
      if p.indexRequests = 1 then some .unassigned else none := by
    rcases room with none | one
    · simp [none]
    · simp [one]
  rw [FieldGroup.property?, stored]
  simp only [becomes.types]
  rw [if_pos ok, (Property.deriveFlags_property ok).1]
  refine congrArg some (Eq.trans ?_ becomes.eq)
  rw [← index]
  rfl

/-- The properties of a struct are those that its fields become. -/
theorem exists_becomes {fields : List FieldGroup} {p : Property}
    (hp : p ∈ fields.filterMap FieldGroup.property?) : ∃ f ∈ fields, f.Becomes p := by
  obtain ⟨f, hf, property⟩ := List.mem_filterMap.1 hp
  exact ⟨f, hf, FieldGroup.becomes_of_property? property⟩

/-- A stored field that passes the checks of its type and of its flags is a property. -/
theorem FieldGroup.Passes.property?_isSome {f : FieldGroup} {entity : String}
    {earlier : List FieldGroup} (pass : f.Passes entity earlier) (stored : f.stored?.isSome = true) :
    f.property?.isSome = true := by
  obtain ⟨⟨name, a⟩, hs⟩ := Option.isSome_iff_exists.1 stored
  have typePass := pass .type
  have flagsPass := pass .flags
  simp only [Check.error?, hs, Option.bind_some, Check.storedError?] at typePass flagsPass
  rw [property?]
  rw [hs]
  cases hr : resolveType f.type a with
  | error cause =>
      simp only [hr] at typePass
      cases typePass
  | ok r =>
      simp only [hr, Option.map_eq_none_iff] at flagsPass
      simp [flagsPass, hr]

end EntityBinding
