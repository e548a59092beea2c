import EntityBinding.Source.Grammar.Parser

/-!
# Attributes

An attribute is `#[path]`, `#[path = value]` or `#[path(tokens)]`, where any brackets may
stand around the tokens.  An inner attribute, `#![…]`, belongs to what it stands in.
-/

namespace EntityBinding.Source

open Source.Parser

/-- Takes an identifier that may be a segment of a path. -/
def pathIdent : Parser Ident := do
  guarded (← sees fun ts => aheadName ts || aheadWords pathWords ts)
  anyIdent

/-- Takes a path whose segments are bare names, and says whether it starts with `::`. -/
def plainPath : Parser (Bool × List Ident) := do
  let rooted ← tryOp "::"
  let segments ← oneOrMore "::" pathIdent
  return (rooted, segments)

/-- What follows the path of bare names that stands at the head, if there is one. -/
def afterPlainPath? (ts : List Token) : Option (List Token) :=
  (plainPath ⟨ts, []⟩).map fun (_, cursor) => cursor.rest

/-- Takes what follows the path of an attribute. -/
def attributeArgument (g : Grammar) : Parser AttributeArgument := do
  if ← sees aheadAnyGroup then
    let tokens ← anyGroup
    return .list tokens
  else if ← tryOp "=" then
    guarded !(← sees aheadAttribute)
    discard <| g (.expr true)
    return .assigned
  else
    return .none

/-- Takes the brackets of an attribute. -/
def attributeBody (g : Grammar) : Parser Attribute :=
  group .bracket do
    if ← tryWord "unsafe" then
      return ⟨false, [Ident.plain "unsafe"], ← attributeArgument g⟩
    else
      let (rooted, path) ← plainPath
      return ⟨rooted, path, ← attributeArgument g⟩

/-- Takes an attribute. -/
def outerAttribute (g : Grammar) : Parser Attribute := do
  op "#"
  attributeBody g

/-- Takes the attributes at the head. -/
def attributes (g : Grammar) : Parser (List Attribute) :=
  collectUntil (fun ts => !aheadAttribute ts) (outerAttribute g)

/-- Takes the inner attributes at the head. -/
def innerAttributes (g : Grammar) : Parser Unit :=
  repeatWhile do
    if ← sees fun ts => ahead "#" ts && ahead "!" (ts.drop 1) then
      op "#"
      op "!"
      discard <| attributeBody g
      return true
    else
      return false

/-! ## Blocks and calls of macros -/

/-- Takes a block. -/
def block (g : Grammar) : Parser Unit := group .brace (g .statements)

/-- Takes a block that may start with attributes of its own. -/
def body (g : Grammar) : Parser Unit :=
  group .brace do
    innerAttributes g
    g .statements

/-- Whether the exclamation mark of a macro call stands at the head. -/
def aheadBang (ts : List Token) : Bool := ahead "!" ts && !ahead "!=" ts

/-- Takes a macro call from its exclamation mark on, and says whether its brackets are
curly. -/
def macroCall : Parser Bool := do
  op "!"
  let braced ← sees (aheadGroup .brace)
  discard anyGroup
  return braced

end EntityBinding.Source
