import EntityBinding.Discovery.Event
import EntityBinding.Model.Property
import EntityBinding.Text.Lowercase

/-!
# Flags of a property

The entries of its tag give a property its flags and its index, by four rules.

1. `id` gives the flag `id`.
2. `index` gives the flag `indexed`, the flag of its kind if it names one, and an index.
3. `unique` gives the flag `unique` and an index.
4. A relation gives an index.

A property has one index at most, so a second rule that gives one fails.  A failure
keeps what the rules before it did, and what its own rule did before it failed.
-/

namespace EntityBinding

/-- A property on its way through the rules. -/
structure Derivation where
  /-- The property so far. -/
  property : Property
  /-- The events so far. -/
  events : List Event
  /-- The error that stopped the rules, if one did. -/
  failure : Option FieldError

namespace Derivation

/-- A property that a rule leaves as it is. -/
def unchanged (p : Property) : Derivation := ⟨p, [], none⟩

/-- The next rule, which a failure before it keeps from being applied. -/
def andThen (d : Derivation) (rule : Property → Derivation) : Derivation :=
  match d.failure with
  | some _ => d
  | none =>
      let next := rule d.property
      ⟨next.property, d.events ++ next.events, next.failure⟩

/-- A property with an index, if it has none yet. -/
def allocate (p : Property) : Derivation :=
  match p.allocateIndex with
  | .ok q => ⟨q, [], none⟩
  | .error e => ⟨p, [], some e⟩

end Derivation

namespace Property

open Text (lowercaseString)

/-- The flag for the kind of an index.  The empty kind is a plain index. -/
def indexKind (value : String) : Except FieldError (Option Flag) :=
  match lowercaseString value with
  | "" => .ok none
  | "value" => .ok (some .indexValue)
  | "hash" => .ok (some .indexHash)
  | "hash64" => .ok (some .indexHash64)
  | _ => .error (.unknownIndexKind value)

/-- The rule for `id`. -/
def markId (p : Property) : Derivation :=
  .unchanged (if p.annotations.contains "id" then p.addFlag .id else p)

/-- The rule for `index`. -/
def markIndexed (p : Property) : Derivation :=
  match p.annotations.get? "index" with
  | none => .unchanged p
  | some value =>
      match indexKind value with
      | .error e => ⟨p, [], some e⟩
      | .ok none => .allocate (p.addFlag .indexed)
      | .ok (some kind) =>
          let noted : Derivation :=
            ⟨(p.addFlag .indexed).addFlag kind,
              if kind = .indexValue then [.valueIndexRequested p.name] else [], none⟩
          noted.andThen .allocate

/-- The rule for `unique`. -/
def markUnique (p : Property) : Derivation :=
  if p.annotations.contains "unique" then .allocate (p.addFlag .unique) else .unchanged p

/-- The rule for relations. -/
def indexRelation (p : Property) : Derivation :=
  if p.relation.isSome then .allocate p else .unchanged p

/-- The property with the flags and the index that its tag and its relation ask for. -/
def deriveFlags (p : Property) : Derivation :=
  (((p.markId).andThen markIndexed).andThen markUnique).andThen indexRelation

end Property

end EntityBinding
