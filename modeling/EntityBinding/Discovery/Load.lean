import EntityBinding.Declaration.SourceUnit
import EntityBinding.Discovery.Build
import EntityBinding.Model.Binding

/-!
# From a source unit to a binding

A walk goes through the declarations of a source unit.  It remembers the name of
every type specification that it enters, and a struct takes the name that is
remembered and becomes an entity of it.  It does not enter functions, values and
imports, nor the inside of a type.

The first error ends the walk.  The entities before it stay in the binding.
-/

namespace EntityBinding

/-- A walk through a source unit. -/
structure Walk where
  /-- The binding so far. -/
  binding : Binding
  /-- The name of a type that no struct has taken yet. -/
  pending : Option String
  /-- The events so far. -/
  events : List Event
  /-- The error that ended the walk, if one did. -/
  failure : Option DiscoveryError

namespace Walk

/-- The walk at its start. -/
def start (b : Binding) : Walk := ⟨b, none, [], none⟩

/-- Enters a struct. -/
def visitStruct (w : Walk) (fields : List FieldGroup) : Walk :=
  match w.pending with
  | none => { w with failure := some .unnamedStruct }
  | some name =>
      let built := buildEntity name fields
      let after := { w with pending := none, events := w.events ++ built.events }
      match built.result with
      | .ok e => { after with binding := w.binding.push e }
      | .error e => { after with failure := some e }

/-- Enters a type, which leads on into a struct and ends anywhere else. -/
def visitType (w : Walk) : TypeExpr → Walk
  | .struct fields => w.visitStruct fields
  | _ => w

/-- Enters a specification. -/
def visitSpec (w : Walk) : Spec → Walk
  | .type name type => { w with pending := some name }.visitType type
  | _ => w

/-- Enters some nodes in order, up to the first error. -/
def visitAll {α : Type} (visit : Walk → α → Walk) (w : Walk) : List α → Walk
  | [] => w
  | a :: rest =>
      let next := visit w a
      match next.failure with
      | some _ => next
      | none => visitAll visit next rest

/-- Enters a declaration. -/
def visitDecl (w : Walk) : Decl → Walk
  | .group specs => visitAll visitSpec w specs
  | .function _ => w

end Walk

/-- What loading a source unit came to. -/
structure Loaded where
  /-- The binding afterwards. -/
  binding : Binding
  /-- The events, in the order they were emitted. -/
  events : List Event
  /-- The error that ended the walk, if one did. -/
  failure : Option DiscoveryError

/-- The binding with the package of a source unit, and with its entities at the end. -/
def Binding.load (b : Binding) (source : SourceUnit) : Loaded :=
  let opened : Binding := { b with package := source.package }
  let w := Walk.visitAll Walk.visitDecl (.start opened) source.decls
  match w.failure with
  | some e => ⟨w.binding, w.events, some e⟩
  | none =>
      ⟨w.binding,
        w.events ++ [.discoveryFinished w.binding.package w.binding.entities.length], none⟩

/-- The binding of a source unit. -/
def discover (source : SourceUnit) : Outcome Binding :=
  let loaded := (Binding.new "").load source
  match loaded.failure with
  | some e => ⟨loaded.events, .error e⟩
  | none => ⟨loaded.events, .ok loaded.binding⟩

end EntityBinding
