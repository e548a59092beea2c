import EntityBinding.Source.Grammar.Expression

/-!
# Items

`itemOf` reads an item after its attributes.  Only the items that become declarations keep
their parts.  The others have to be well formed and are `Item.other`, and so are these,
which are written as they stand:

* a function without a body,
* a constant without a value, or with parameters of its own,
* a static variable without a type or a value,
* a name for a type with bounds or without a type,
* an import that goes back to the root of all crates inside of curly brackets.

The items of traits, implementations and foreign modules have such forms too.
-/

namespace EntityBinding.Source

open Source.Parser

/-! ## Visibility -/

/-- Whether a restriction of visibility stands at the head. -/
def aheadRestriction : List Token → Bool
  | .group .paren [t] :: _ => aheadWords ["crate", "self", "super"] [t]
  | .group .paren inner :: _ => aheadWord "in" inner
  | _ => false

/-- Takes the visibility if one is given, and says whether it is. -/
def visibility : Parser Bool := do
  let visible ← tryWord "pub"
  if visible && (← sees aheadRestriction) then
    group .paren do
      if ← tryWord "in" then
        discard plainPath
      else
        discard anyIdent
  return visible

/-! ## Functions -/

/-- The tokens without a word at the head. -/
def dropWord (name : String) (ts : List Token) : List Token :=
  if aheadWord name ts then ts.drop 1 else ts

/-- The tokens without a calling convention at the head. -/
def dropConvention (ts : List Token) : List Token :=
  if aheadWord "extern" ts then
    let after := ts.drop 1
    if aheadString after then after.drop 1 else after
  else
    ts

/-- Whether a function stands at the head, perhaps with qualifiers before `fn`. -/
def aheadFunction (ts : List Token) : Bool :=
  aheadWord "fn" (dropConvention (dropWord "unsafe" (dropWord "async" (dropWord "const" ts))))

/-- Whether a function of another language stands at the head, which may be marked safe. -/
def aheadForeignFunction (ts : List Token) : Bool :=
  let start := dropWord "async" (dropWord "const" ts)
  aheadFunction ts || aheadWord "fn" (dropConvention (dropWord "safe" start))

/-- Takes the receiver of a method. -/
def receiver (g : Grammar) : Parser Unit := do
  if ← tryOp "&" then
    discard tryLifetime
    discard <| tryWord "mut"
    word "self"
  else
    discard <| tryWord "mut"
    word "self"
    if ← tryOp ":" then
      discard <| g (.type true)

/-- Takes `...` if it stands at the head and at most a comma follows, and says whether it
stands there. -/
def tryVariadic : Parser Bool := do
  let found ← tryOp "..."
  if found then
    guarded ((← rest).length ≤ 1)
  return found

/-- Takes a parameter of a function.  The first one may be a receiver, and the last one may be
`...`.  A type with arguments may stand alone, and is written with a blank name. -/
def functionParameter (g : Grammar) (first : Bool) : Parser Unit := do
  discard <| attributes g
  if ← tryVariadic then
    return ()
  else if ← Parser.succeeds (receiver g) then
    guarded first
  else if ← sees fun ts => aheadName ts && ahead "<" (ts.drop 1) then
    write (.word "_" :: Token.operator ":")
    discard <| g (.type true)
  else
    discard <| g .pattern
    op ":"
    if !(← tryVariadic) then
      discard <| g (.type true)

/-- Takes a function up to its body, and gives its name. -/
def signature (g : Grammar) : Parser Ident := do
  discard <| tryWord "const"
  discard <| tryWord "async"
  discard <| tryWord "unsafe"
  discard <| tryWord "safe"
  convention
  word "fn"
  let id ← name
  discard <| tryParameters g
  group .paren (parameterList (functionParameter g))
  result g true
  discard <| tryWhere g
  return id

/-- Takes the body of a function or the semicolon instead of it, and says whether there is
a body. -/
def functionEnd (g : Grammar) : Parser Bool := do
  if ← tryOp ";" then
    return false
  else
    body g
    return true

/-- The form of a part that is canonical under a condition. -/
def Form.canonicalIf (condition : Bool) : Form := if condition then .canonical else .verbatim

/-- Takes a function. -/
def functionItem (g : Grammar) : Parser (Item × Form) := do
  let id ← signature g
  let complete ← functionEnd g
  return (if complete then .function id else .other, .canonicalIf complete)

/-! ## Values and types -/

/-- Takes a value after an equals sign if there is one, and says whether there is. -/
def tryValue (g : Grammar) : Parser Bool := do
  let found ← tryOp "="
  if found then
    discard <| g (.expr true)
  return found

/-- Takes a name or an underscore. -/
def nameOrBlank : Parser Ident := do
  guarded (← sees fun ts => aheadName ts || aheadWord "_" ts)
  anyIdent

/-- Takes a constant, read after the word.  The result says whether it has a value as
well. -/
def constant (g : Grammar) : Parser (Item × Bool × Form) := do
  let id ← nameOrBlank
  let generic ← tryParameters g
  op ":"
  let type ← g (.type true)
  let valued ← tryValue g
  let conditional ← tryWhere g
  op ";"
  return (.constant id type, valued, .canonicalIf (!generic && !conditional))

/-- Takes a constant with a value, read after the word. -/
def constantItem (g : Grammar) : Parser (Item × Form) := do
  let (item, valued, form) ← constant g
  return if valued && form = .canonical then (item, .canonical) else (.other, .verbatim)

/-- Takes a static variable, read after the word. -/
def staticItem (g : Grammar) : Parser (Item × Form) := do
  discard <| tryWord "mut"
  let id ← name
  if ← tryValue g then
    op ";"
    return (.other, .verbatim)
  else
    op ":"
    let type ← g (.type true)
    let valued ← tryValue g
    op ";"
    return if valued then (.constant id type, .canonical) else (.other, .verbatim)

/-- A name for a type. -/
structure Alias where
  /-- The name. -/
  name : Ident
  /-- Whether a colon follows the name. -/
  bounded : Bool
  /-- The type, if it is given. -/
  type : Option Ty

/-- Takes a name for a type, read after the word.  A `where` clause may come `before` the
equals sign or `after` it. -/
def aliasNode (g : Grammar) (before after : Bool) : Parser Alias := do
  let id ← name
  discard <| tryParameters g
  let bounded ← sees (ahead ":")
  tryBounds g fun ts => aheadWord "where" ts || aheadAny ["=", ";"] ts
  let conditional ← if before then tryWhere g else pure false
  let type ← if ← tryOp "=" then some <$> g (.type true) else pure none
  if after && !conditional then
    discard <| tryWhere g
  op ";"
  return ⟨id, bounded, type⟩

/-- Takes a name for a type as an item, read after the word. -/
def aliasItem (g : Grammar) : Parser (Item × Form) := do
  match ← aliasNode g true false with
  | ⟨id, false, some type⟩ => return (.alias id type, .canonical)
  | _ => return (.other, .verbatim)

/-! ## Structs and their kin -/

/-- Whether a struct or a union without a name stands at the head. -/
def aheadFields (ts : List Token) : Bool :=
  aheadWord "struct" ts || (aheadWord "union" ts && aheadGroup .brace (ts.drop 1))

/-- Takes a field with a name.  A blank field may have fields of its own. -/
def namedField (g : Grammar) : Parser StructField := do
  let attributes ← attributes g
  discard visibility
  let blank ← sees (aheadWord "_")
  let id ← nameOrBlank
  op ":"
  if blank && (← sees aheadFields) then
    let type ← tokensOnly <| asItStands do
      discard anyIdent
      discard <| g .fields
    return ⟨attributes, some id, type⟩
  else
    return ⟨attributes, some id, ← g (.type true)⟩

/-- Takes a field without a name. -/
def unnamedField (g : Grammar) : Parser StructField := do
  let attributes ← attributes g
  discard visibility
  return ⟨attributes, none, ← g (.type true)⟩

/-- Takes the fields in curly brackets. -/
def namedFields (g : Grammar) : Parser (List StructField) :=
  group .brace (commaList (namedField g))

/-- Takes the fields in parentheses. -/
def unnamedFields (g : Grammar) : Parser (List StructField) :=
  group .paren (commaList (unnamedField g))

/-- Takes what follows the head of a struct. -/
def structFields (g : Grammar) : Parser (List StructField) := do
  if ← sees (aheadGroup .paren) then
    let fields ← unnamedFields g
    discard <| tryWhere g
    op ";"
    return fields
  else
    discard <| tryWhere g
    if ← tryOp ";" then
      return []
    else
      namedFields g

/-- Takes a struct, read after the word. -/
def structItem (g : Grammar) : Parser Item := do
  let id ← name
  discard <| tryParameters g
  return .struct id (← structFields g)

/-- Takes a union, read after the word. -/
def unionItem (g : Grammar) : Parser Unit := do
  discard name
  discard <| tryParameters g
  discard <| tryWhere g
  discard <| namedFields g

/-- Takes a variant of an enumeration.  Its visibility is not written. -/
def variant (g : Grammar) : Parser Unit := do
  discard <| attributes g
  discard <| dropped visibility
  discard name
  if ← sees (aheadGroup .brace) then
    discard <| namedFields g
  else if ← sees (aheadGroup .paren) then
    discard <| unnamedFields g
  discard <| tryValue g

/-- Takes an enumeration, read after the word. -/
def enumItem (g : Grammar) : Parser Unit := do
  discard name
  discard <| tryParameters g
  discard <| tryWhere g
  group .brace (discard <| commaList (variant g))

/-! ## Imports -/

/-- Takes the new name of an import if it gets one. -/
def tryRename : Parser Unit := do
  if ← tryWord "as" then
    discard nameOrBlank

/-- Takes the tree of an import, and says whether it goes back to the root of all crates,
which `rooted` allows. -/
def importsOf (g : Grammar) (rooted : Bool) : Parser Bool := do
  if ← tryOp "*" then
    return false
  else if ← sees (aheadGroup .brace) then
    let parts ← group .brace <| commaList do
      let atRoot ← if rooted then tryOp "::" else pure false
      let inside ← g (.imports (rooted && !atRoot))
      return atRoot || inside
    return parts.any id
  else
    guarded (← sees fun ts => aheadName ts || aheadWords ["self", "super", "crate", "try"] ts)
    discard anyIdent
    if ← tryOp "::" then
      g (.imports false)
    else
      tryRename
      return false

/-- Takes an import, read after the word. -/
def importItem (g : Grammar) : Parser (Item × Form) := do
  let rooted ← tryOp "::"
  let (atRoot, tree) ← captured (g (.imports !rooted))
  op ";"
  return if atRoot then (.other, .verbatim) else (.imports tree, .canonical)

/-! ## Macros -/

/-- Whether a call of a macro stands at the head.  Unlike other paths, its path does not start
with `Self`. -/
def aheadMacro (ts : List Token) : Bool :=
  aheadName ts || aheadWords ["super", "self", "crate"] ts || ahead "::" ts

/-- Takes a macro call that stands for an item. -/
def macroItem : Parser Unit := do
  discard plainPath
  op "!"
  if ← sees fun ts => aheadName ts || aheadWord "try" ts then
    discard anyIdent
  let braced ← sees (aheadGroup .brace)
  discard anyGroup
  if !braced then
    op ";"

/-- Takes the definition of a macro, read after the word. -/
def macroDefinition : Parser Unit := do
  discard name
  if ← sees (aheadGroup .paren) then
    discard anyGroup
  guarded (← sees (aheadGroup .brace))
  discard anyGroup

/-! ## Traits and implementations -/

/-- Takes a macro call among the items of a trait, an implementation or a foreign module. -/
def macroMember : Parser Unit := do
  discard plainPath
  op "!"
  let braced ← sees (aheadGroup .brace)
  discard anyGroup
  if !braced then
    op ";"

/-- Takes an item of a trait.  One that is marked in any way is written as it stands. -/
def traitMember (g : Grammar) : Parser Unit :=
  formed do
    discard <| attributes g
    let visible ← visibility
    let marked ← tryWord "default"
    let plain := !visible && !marked
    let ts ← rest
    if aheadFunction ts then
      discard <| signature g
      discard <| functionEnd g
      return ((), .canonicalIf plain)
    else if ← tryWord "const" then
      let (_, _, form) ← constant g
      return ((), .canonicalIf (plain && form = .canonical))
    else if ← tryWord "type" then
      discard <| aliasNode g false true
      return ((), .canonicalIf plain)
    else
      guarded (plain && aheadMacro ts)
      macroMember
      return ((), .canonical)

/-- Takes an item of an implementation.  One without a value is written as it stands. -/
def implMember (g : Grammar) : Parser Unit :=
  formed do
    discard <| attributes g
    let visible ← visibility
    let marked ←
      if ← sees fun ts => ahead "!" (ts.drop 1) then pure false else tryWord "default"
    let ts ← rest
    if aheadFunction ts then
      discard <| signature g
      return ((), .canonicalIf (← functionEnd g))
    else if ← tryWord "const" then
      let (_, form) ← constantItem g
      return ((), form)
    else if ← tryWord "type" then
      let a ← aliasNode g false true
      return ((), .canonicalIf (!a.bounded && a.type.isSome))
    else
      guarded (!visible && !marked && aheadMacro ts)
      macroMember
      return ((), .canonical)

/-- Takes a static variable of a foreign module. -/
def foreignStatic (g : Grammar) : Parser Form := do
  let start ← rest
  if !(← tryWord "unsafe") then
    discard <| tryWord "safe"
  let bare := (← rest).length = start.length
  word "static"
  discard <| tryWord "mut"
  discard name
  op ":"
  discard <| g (.type true)
  let valued ← tryValue g
  op ";"
  return .canonicalIf (bare && !valued)

/-- Takes an item of a foreign module.  One that is marked safe or unsafe and one with a
value or a body are written as they stand. -/
def foreignMember (g : Grammar) : Parser Unit :=
  formed do
    discard <| attributes g
    let visible ← visibility
    let ts ← rest
    if aheadForeignFunction ts then
      discard <| signature g
      let complete ← functionEnd g
      return ((), .canonicalIf (aheadFunction ts && !complete))
    else if aheadWord "static" ts ||
        (aheadWords ["unsafe", "safe"] ts && aheadWord "static" (ts.drop 1)) then
      return ((), ← foreignStatic g)
    else if ← tryWord "type" then
      let a ← aliasNode g true true
      return ((), .canonicalIf (!a.bounded && a.type.isNone))
    else
      guarded (!visible && aheadMacro ts)
      macroMember
      return ((), .canonical)

/-- Takes curly brackets around items. -/
def members (g : Grammar) (one : Parser Unit) : Parser Unit :=
  group .brace do
    innerAttributes g
    discard <| collectUntil List.isEmpty one

/-- Takes a trait, read after the word.  It may be a name for other traits if `aliases`
allows it. -/
def traitItem (g : Grammar) (aliases : Bool) : Parser Unit := do
  discard name
  discard <| tryParameters g
  if ← sees fun ts => aliases && ahead "=" ts then
    op "="
    discard <| boundsUntil g fun ts => aheadWord "where" ts || ahead ";" ts
    discard <| tryWhere g
    op ";"
  else
    tryBounds g fun ts => aheadWord "where" ts || aheadGroup .brace ts
    discard <| tryWhere g
    members g (traitMember g)

/-- Whether a type is a path. -/
def Ty.isPath : Ty → Bool
  | .path .. => true
  | _ => false

/-- Takes an implementation, read after the word.  One that is negative is the
implementation of a trait. -/
def implItem (g : Grammar) : Parser Form := do
  if ← sees aheadParameters then
    discard <| tryParameters g
  let start ← rest
  if ← sees fun ts => ahead "?" ts && aheadWord "const" (ts.drop 1) then
    op "?"
  discard <| tryWord "const"
  let bare := (← rest).length = start.length
  let negative ← sees fun ts => ahead "!" ts && !aheadGroup .brace (ts.drop 1)
  if negative then
    op "!"
  let type ← g (.type true)
  let ofTrait ← tryWord "for"
  guarded (ofTrait || !negative)
  if ofTrait then
    discard <| g (.type true)
  discard <| tryWhere g
  members g (implMember g)
  return .canonicalIf (bare && (!ofTrait || type.isPath))

/-! ## Modules -/

/-- Takes an item with its attributes. -/
def attributedItem (g : Grammar) : Parser Item :=
  formed do
    discard <| attributes g
    g .item

/-- Takes the items of a file or a module. -/
def items (g : Grammar) : Parser (List Item) := do
  innerAttributes g
  collectUntil List.isEmpty (attributedItem g)

/-- Takes a module, read after the word. -/
def moduleItem (g : Grammar) : Parser Item := do
  let id ← if ← sees (aheadWord "try") then anyIdent else name
  if ← tryOp ";" then
    return .other
  else
    return .module id (← group .brace (items g))

/-- Takes the import of a crate, read after its two words. -/
def crateItem : Parser Unit := do
  if ← sees (aheadWord "self") then
    discard anyIdent
  else
    discard name
  tryRename
  op ";"

/-- Takes a foreign module. -/
def foreignModule (g : Grammar) : Parser Unit := do
  guarded (← sees (aheadWord "extern"))
  convention
  members g (foreignMember g)

/-! ## Items -/

/-- Takes an item of which nothing is kept. -/
def otherItem (p : Parser Unit) : Parser (Item × Form) := do
  p
  return (.other, .canonical)

/-- Takes an implementation with its word.  One with a visibility is written as it
stands. -/
def implementation (g : Grammar) (visible : Bool) : Parser (Item × Form) := do
  word "impl"
  let form ← implItem g
  return (.other, if visible then .verbatim else form)

/-- Takes an item that starts with `extern` and is no function, read before the word. -/
def externItem (g : Grammar) (visible : Bool) : Parser Unit := do
  if ← sees fun ts => aheadWord "crate" (ts.drop 1) then
    word "extern"
    word "crate"
    crateItem
  else
    guarded !visible
    foreignModule g

/-- Takes an item that starts with `unsafe` and is no function, read after the word. -/
def unsafeItem (g : Grammar) (visible : Bool) : Parser (Item × Form) := do
  let ts ← rest
  if aheadWord "impl" ts then
    implementation g visible
  else if ← tryWord "mod" then
    return (← moduleItem g, .canonical)
  else if aheadWord "extern" ts then
    guarded !visible
    otherItem (foreignModule g)
  else
    discard <| tryWord "auto"
    word "trait"
    otherItem (traitItem g false)

/-- Takes an item that starts with none of the words that start most items. -/
def remainingItem (g : Grammar) (visible : Bool) : Parser (Item × Form) := do
  let ts ← rest
  if aheadWord "union" ts && aheadName (ts.drop 1) then
    word "union"
    otherItem (unionItem g)
  else if aheadWord "auto" ts && aheadWord "trait" (ts.drop 1) then
    word "auto"
    word "trait"
    otherItem (traitItem g false)
  else if aheadWord "impl" ts || (aheadWord "default" ts && !ahead "!" (ts.drop 1)) then
    discard <| tryWord "default"
    discard <| tryWord "unsafe"
    implementation g visible
  else
    guarded (!visible && aheadMacro ts)
    otherItem macroItem

/-- Takes an item after its attributes. -/
def itemOf (g : Grammar) : Parser (Item × Form) := do
  let visible ← visibility
  if ← sees aheadFunction then
    functionItem g
  else if ← sees (aheadWord "extern") then
    otherItem (externItem g visible)
  else if ← tryWord "use" then
    importItem g
  else if ← tryWord "static" then
    staticItem g
  else if ← tryWord "const" then
    constantItem g
  else if ← tryWord "unsafe" then
    unsafeItem g visible
  else if ← tryWord "mod" then
    return (← moduleItem g, .canonical)
  else if ← tryWord "type" then
    aliasItem g
  else if ← tryWord "struct" then
    return (← structItem g, .canonical)
  else if ← tryWord "enum" then
    otherItem (enumItem g)
  else if ← tryWord "trait" then
    otherItem (traitItem g true)
  else if ← tryWord "macro" then
    macroDefinition
    return (.other, .verbatim)
  else
    remainingItem g visible

end EntityBinding.Source
