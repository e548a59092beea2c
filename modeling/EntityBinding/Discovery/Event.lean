import EntityBinding.Json
import EntityBinding.Model.Error

/-!
# Events

Discovery tells what it does by events.  An event has a level, a message and named
values.  `Outcome` is the result of a step together with the events of the step, in
order.  A step that fails keeps the events that it had emitted before.
-/

namespace EntityBinding

/-- How much an event matters. -/
inductive Level where
  /-- Of interest when following every step. -/
  | trace
  /-- Of interest when looking for a mistake. -/
  | debug
  /-- Of interest to everyone. -/
  | warn
  deriving Repr, DecidableEq

/-- Something that discovery did. -/
inductive Event where
  /-- A transient field was left out. -/
  | transientSkipped (entity property : String)
  /-- A field became a property. -/
  | propertyAccepted (entity property : String) (type : StorageType)
  /-- A tag asks for an index that not every storage engine has. -/
  | valueIndexRequested (property : String)
  /-- An identity was found without being marked. -/
  | identityInferred (entity property : String)
  /-- An entity with so many properties is complete. -/
  | entityDiscovered (entity : String) (properties : Nat)
  /-- A source unit was read to its end, and its binding holds so many entities. -/
  | discoveryFinished (package : String) (entities : Nat)
  deriving Repr, DecidableEq

namespace Event

/-- The level of an event. -/
def level : Event → Level
  | transientSkipped .. | propertyAccepted .. => .trace
  | valueIndexRequested .. => .warn
  | identityInferred .. | entityDiscovered .. | discoveryFinished .. => .debug

/-- The message of an event. -/
def message : Event → String
  | transientSkipped .. => "skipping transient field"
  | propertyAccepted .. => "accepted property"
  | valueIndexRequested .. =>
      "value index requested, the storage engine may not support it"
  | identityInferred .. => "inferred identity property"
  | entityDiscovered .. => "discovered entity"
  | discoveryFinished .. => "discovery finished"

/-- The named values of an event. -/
def fields : Event → List (String × Json)
  | transientSkipped entity property =>
      [("entity", .string entity), ("property", .string property)]
  | propertyAccepted entity property type =>
      [("entity", .string entity), ("property", .string property), ("ob_type", .string type.name)]
  | valueIndexRequested property => [("property", .string property)]
  | identityInferred entity property =>
      [("entity", .string entity), ("property", .string property)]
  | entityDiscovered entity properties =>
      [("entity", .string entity), ("properties", .number (Int.ofNat properties))]
  | discoveryFinished package entities =>
      [("package", .string package), ("entities", .number (Int.ofNat entities))]

end Event

/-- The result of a step of discovery, with the events of the step. -/
structure Outcome (α : Type) where
  /-- The events, in the order they were emitted. -/
  events : List Event
  /-- What the step came to. -/
  result : Except DiscoveryError α

namespace Outcome

variable {α β : Type}

/-- A step that only fails. -/
def fail (e : DiscoveryError) : Outcome α := ⟨[], .error e⟩

/-- A step that only emits an event. -/
def emit (e : Event) : Outcome Unit := ⟨[e], .ok ()⟩

/-- A step, and another that goes on from its value.  Nothing goes on from an error. -/
def andThen (o : Outcome α) (f : α → Outcome β) : Outcome β :=
  match o.result with
  | .ok a => ⟨o.events ++ (f a).events, (f a).result⟩
  | .error e => ⟨o.events, .error e⟩

instance : Monad Outcome where
  pure a := ⟨[], .ok a⟩
  bind := andThen

end Outcome

end EntityBinding
