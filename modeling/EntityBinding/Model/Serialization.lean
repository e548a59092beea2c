import EntityBinding.Json
import EntityBinding.Model.Binding

/-!
# Bindings as JSON

Code generation reads a binding as a JSON value.  Every field of the model is
written under a name of its own: enumerations by their canonical names, a missing
record as `null`, the entries of a tag as one object with a record per name.
-/

namespace EntityBinding

/-- A pair of ids as an object. -/
def IdPair.toJson (p : IdPair) : Json :=
  .object [("id", .number p.id.toNat), ("uid", .number p.uid.toNat)]

/-- The entries of a tag as an object, with the value of each in a record. -/
def Annotations.toJson (a : Annotations) : Json :=
  .object (a.entries.map fun e => (e.1, .object [("value", .string e.2)]))

/-- A property as an object. -/
def Property.toJson (p : Property) : Json :=
  .object [
    ("name", .string p.name),
    ("ob_name", .string p.storageName),
    ("id", .number p.id.toNat),
    ("uid", .number p.uid.toNat),
    ("annotations", p.annotations.toJson),
    ("ob_type", .string p.storageType.name),
    ("ob_flags", .array (p.flags.map fun f => .string f.name)),
    ("host_type", .string p.declaredType),
    ("fb_type", .string p.bufferType.name),
    ("relation", .ofOption (fun target => .object [("target", .string target)]) p.relation),
    ("index", .ofOption IdPair.toJson p.index)]

/-- An entity as an object. -/
def Entity.toJson (e : Entity) : Json :=
  .object [
    ("name", .string e.name),
    ("id", .number e.id.toNat),
    ("uid", .number e.uid.toNat),
    ("properties", .array (e.properties.map Property.toJson)),
    ("id_property", .ofOption (fun i => .number (Int.ofNat i)) e.identity),
    ("last_property_id", e.lastPropertyId.toJson)]

/-- A binding as an object. -/
def Binding.toJson (b : Binding) : Json :=
  .object [
    ("package", .string b.package),
    ("entities", .array (b.entities.map Entity.toJson))]

end EntityBinding
