import EntityBinding.Discovery.Load
import EntityBinding.Source.Lowering
import EntityBinding.Source.Parse

/-!
# From source text to a binding

A source text is read as a whole, then lowered to a source unit, then loaded into a
binding.  The first stage that fails decides the error, and only the last one touches the
binding.
-/

namespace EntityBinding

/-- What is wrong with a source text. -/
inductive SourceError where
  /-- The text is not well formed. -/
  | malformed
  /-- The text is well formed and says something wrong. -/
  | discovery (cause : DiscoveryError)
  deriving Repr, DecidableEq

/-- The source unit that a source text stands for. -/
def readSource (settings : Settings) (text : String) : Except SourceError SourceUnit :=
  match Source.parseFile? text with
  | none => .error .malformed
  | some items =>
      match Source.lowerFile settings items with
      | .ok unit => .ok unit
      | .error e => .error (.discovery e)

/-- The binding of a source text. -/
def discoverSource (settings : Settings) (text : String) : Except SourceError Binding :=
  match readSource settings text with
  | .error e => .error e
  | .ok unit =>
      match (discover unit).result with
      | .ok b => .ok b
      | .error e => .error (.discovery e)

/-- The binding after a source text is loaded into it, and the error that ended the walk or
kept it from starting. -/
def Binding.loadSource (b : Binding) (settings : Settings) (text : String) :
    Binding × Option SourceError :=
  match readSource settings text with
  | .error e => (b, some e)
  | .ok unit =>
      let loaded := b.load unit
      (loaded.binding, loaded.failure.map .discovery)

end EntityBinding
