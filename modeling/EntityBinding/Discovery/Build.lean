import EntityBinding.Discovery.Flags
import EntityBinding.Discovery.Resolution
import EntityBinding.Discovery.Tag
import EntityBinding.Model.Entity

/-!
# From a struct to an entity

`buildEntity` reads the fields of a struct in order.  A field has to pass, in this
order, the following checks.

1. Its group declares one name.
2. Its tag can be read.  A field whose tag says `transient` is left out here.
3. Its type can be resolved.
4. Its flags can be derived.
5. No property before it is marked `id` as well, if it is.
6. The storage name that its tag gives it, if any, is not empty.
7. No property before it has its storage name, in small letters.

The first failure ends the build.  At the end, an entity without properties fails, and
so does one without an identity.  If no property is marked `id`, the one property of
type `uint64` that is called `id`, in letters of any case, becomes the identity.
-/

namespace EntityBinding

open Text (lowercaseString equalsIgnoringAsciiCase)

/-- An entity whose fields are still being read. -/
structure Draft where
  /-- The entity so far. -/
  entity : Entity
  /-- The storage names so far, in small letters. -/
  storageNames : List String

namespace Draft

/-- A draft without fields. -/
def new (name : String) : Draft := ⟨.new name, []⟩

/-- The outcome of a check of one field, told with the names of the entity and of the
field. -/
def check {α : Type} (d : Draft) (field : String) : Except FieldError α → Outcome α
  | .ok a => pure a
  | .error e => .fail (.property d.entity.name field e)

/-! ## One field -/

/-- The property of a field, before it is compared with the properties before it. -/
def readProperty (d : Draft) (name : String) (type : TypeExpr) (a : Annotations) :
    Outcome Property := do
  let resolved ← d.check name (resolveType type a)
  let plain := Property.new name resolved.declaredType resolved.storageType resolved.bufferType
  let derived := Property.deriveFlags { plain with annotations := a, relation := resolved.relation }
  match derived.failure with
  | none => ⟨derived.events, .ok derived.property⟩
  | some e => ⟨derived.events, .error (.property d.entity.name name e)⟩

/-- The property under the storage name that its tag gives it. -/
def applyStorageName (p : Property) : Except FieldError Property :=
  match p.annotations.get? "nameindb" with
  | none => .ok p
  | some name =>
      if name.isEmpty then .error .emptyStorageName else .ok { p with storageName := name }

/-- The draft with a property added.  A property marked `id` becomes the identity. -/
def push (d : Draft) (p : Property) : Draft :=
  let grown := d.entity.push p
  { entity :=
      if p.annotations.contains "id" then grown.setIdentity d.entity.properties.length else grown
    storageNames := lowercaseString p.storageName :: d.storageNames }

/-- The draft with a property added, if it can stand beside the properties before it. -/
def accept (d : Draft) (p : Property) : Outcome Draft :=
  match p.annotations.contains "id", d.entity.identityProperty? with
  | true, some first => .fail (.multipleIds d.entity.name first.name p.name)
  | _, _ => do
      let named ← d.check p.name (applyStorageName p)
      if d.storageNames.contains (lowercaseString named.storageName) then
        .fail (.property d.entity.name p.name .duplicateStorageName)
      else
        .emit (.propertyAccepted d.entity.name named.name named.storageType)
        return d.push named

/-- The draft with the fields of a group. -/
def addField (d : Draft) (field : FieldGroup) : Outcome Draft :=
  match field.names with
  | [name] => do
      let a ← d.check name (Tag.parseOptional field.tag)
      if a.contains "transient" then
        .emit (.transientSkipped d.entity.name name)
        return d
      else
        let p ← d.readProperty name field.type a
        d.accept p
  | names => .fail (.invalidFieldNames d.entity.name names.length)

/-- The draft with the fields of some groups, in order. -/
def addFields (d : Draft) : List FieldGroup → Outcome Draft
  | [] => pure d
  | field :: rest => do
      let next ← d.addField field
      next.addFields rest

end Draft

/-! ## The identity -/

namespace Entity

/-- Whether a property could be an identity that is not marked. -/
def isIdentityCandidate (p : Property) : Bool :=
  equalsIgnoringAsciiCase p.name "id" && equalsIgnoringAsciiCase p.declaredType "uint64"

/-- The properties that could be an identity, with their positions. -/
def identityCandidates (e : Entity) : List (Property × Nat) :=
  e.properties.zipIdx.filter fun c => isIdentityCandidate c.1

/-- The entity with the only candidate as its identity. -/
def inferIdentity (e : Entity) : Outcome Entity :=
  match e.identityCandidates with
  | [] => .fail (.missingId e.name)
  | [(p, i)] => do
      .emit (.identityInferred e.name p.name)
      return (e.modify i (·.addFlag .id)).setIdentity i
  | (p, _) :: (q, _) :: _ => .fail (.ambiguousId e.name p.name q.name)

end Entity

/-- The entity of a draft that has all its fields. -/
def Draft.finish (d : Draft) : Outcome Entity :=
  if d.entity.properties.isEmpty then
    .fail (.emptyEntity d.entity.name)
  else if d.entity.identityProperty?.isNone then
    d.entity.inferIdentity
  else
    pure d.entity

/-- The entity of a struct. -/
def buildEntity (name : String) (fields : List FieldGroup) : Outcome Entity := do
  let draft ← (Draft.new name).addFields fields
  let entity ← draft.finish
  .emit (.entityDiscovered entity.name entity.properties.length)
  return entity

end EntityBinding
