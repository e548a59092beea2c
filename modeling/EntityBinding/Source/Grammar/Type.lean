import EntityBinding.Source.Grammar.Path

/-!
# Types

`typeOf` reads a type.  A type that allows `sums` may be a sum of bounds without `dyn`,
such as `Debug + Send`.  The tokens that are written for a type are `Ty.tokens`.
-/

namespace EntityBinding.Source

open Source.Parser

/-- Takes a type of which only the tokens are kept. -/
def tokensOnly (p : Parser Unit) : Parser Ty := do
  let (_, tokens) ← captured p
  return .other tokens

/-! ## Bounds -/

/-- Takes the bounds that follow a bound and a plus sign each, and says of each whether it
is a trait.  The last plus sign may stand alone. -/
def moreBounds (g : Grammar) (captures consts : Bool) : Parser (List Bool) :=
  collectUntil (fun ts => !ahead "+" ts) do
    op "+"
    if ← sees (aheadBound consts) then
      g (.bound captures consts)
    else
      guarded !(← sees (ahead "+"))
      return false

/-- Takes bounds, one of which is a trait.  There is only one bound unless `sums` allows
more. -/
def bounds (g : Grammar) (sums captures consts : Bool) : Parser Unit := do
  let first ← g (.bound captures consts)
  let more ← if sums then moreBounds g captures consts else pure []
  guarded ((first :: more).any id)

/-- Takes bounds with a plus sign before each. -/
def addedBounds (g : Grammar) : Parser Unit :=
  repeatWhile do
    if ← tryOp "+" then
      discard <| g (.bound false false)
      return true
    else
      return false

/-! ## Functions -/

/-- Whether a string stands at the head. -/
def aheadString : List Token → Bool
  | .literal (.string _ _) :: _ => true
  | _ => false

/-- Takes the calling convention of a function if it has one. -/
def convention : Parser Unit := do
  if ← tryWord "extern" then
    if ← sees aheadString then
      stringLiteral

/-- Whether a name and a colon stand at the head.  The name may be `self` if `method` says
so. -/
def aheadLabelled (method : Bool) (ts : List Token) : Bool :=
  (aheadName ts || aheadWord "_" ts || (method && aheadWord "self" ts)) &&
    ahead ":" (ts.drop 1) && !ahead "::" (ts.drop 1)

/-- Whether a receiver that is mutable stands at the head. -/
def aheadMutSelf (ts : List Token) : Bool := aheadWord "mut" ts && aheadWord "self" (ts.drop 1)

/-- Takes a parameter of a function type.  The first one may be a receiver, and one that is
mutable is written as it stands. -/
def functionTypeParameter (g : Grammar) (first : Bool) : Parser Unit :=
  formed do
    let marked ← sees fun ts => first && aheadMutSelf ts
    if marked then
      word "mut"
    let labelled ← sees (aheadLabelled first)
    let receiver ← sees (aheadWord "self")
    if labelled then
      discard anyIdent
      op ":"
    if ← sees fun ts => first && !(labelled && receiver) && aheadMutSelf ts then
      word "mut"
      word "self"
      return ((), .verbatim)
    else if marked && !labelled then
      word "self"
      return ((), .verbatim)
    else
      discard <| g (.type true)
      return ((), if marked then .verbatim else .canonical)

/-- Whether the mark of a variable number of arguments stands at the head, perhaps after a
name. -/
def aheadVariadic (ts : List Token) : Bool :=
  ahead "..." ts ||
    ((aheadName ts || aheadWord "_" ts) && ahead ":" (ts.drop 1) && ahead "..." (ts.drop 2))

/-- Takes a parameter of a function type with its attributes.  The last one may be `...`. -/
def functionTypePart (g : Grammar) (first : Bool) : Parser Unit := do
  discard <| attributes g
  if ← sees aheadVariadic then
    if !(← tryOp "...") then
      discard anyIdent
      op ":"
      op "..."
    guarded ((← rest).length ≤ 1)
  else
    functionTypeParameter g first

/-- Takes parameters to the end of the tokens.  The reader is told which one is the first. -/
def parameterList (p : Bool → Parser Unit) : Parser Unit := do
  if !(← rest).isEmpty then
    p true
    if !(← rest).isEmpty then
      op ","
      discard <| commaList (p false)

/-- Whether a function type stands at the head. -/
def aheadFunctionType (ts : List Token) : Bool := aheadWords ["fn", "unsafe", "extern"] ts

/-- Takes a function type. -/
def functionType (g : Grammar) : Parser Unit := do
  discard <| tryWord "unsafe"
  convention
  word "fn"
  group .paren (parameterList (functionTypePart g))
  result g false

/-! ## Types -/

/-- Takes the rest of a type that starts with the path `p`: a macro call, or the further
bounds of a sum. -/
def afterPath (g : Grammar) (sums : Bool) (p : Path) (tokens : List Token) :
    Parser (Option Ty) := do
  if p.isPlain && (← sees aheadBang) then
    let (_, more) ← captured macroCall
    return some (.other (p.type.tokens ++ more))
  else if sums && (← sees (ahead "+")) then
    let (_, more) ← captured (moreBounds g false false)
    return some (.other (tokens ++ p.type.tokens ++ more))
  else
    return none

/-- Takes a type that is generic in some parameters. -/
def genericType (g : Grammar) (sums : Bool) : Parser Ty := do
  let (_, binder) ← captured (tryBinder g)
  if ← sees aheadFunctionType then
    let (_, tokens) ← captured (functionType g)
    return .other (binder ++ tokens)
  else
    guarded (← sees fun ts => aheadName ts || aheadWords pathWords ts)
    let p ← path g false
    match ← afterPath g sums p binder with
    | some type => return type
    | none => return .bound (binder ++ p.type.tokens)

/-- Takes a type that starts with a path. -/
def pathType (g : Grammar) (sums : Bool) : Parser Ty := do
  let p ← path g false
  match ← afterPath g sums p [] with
  | some type => return type
  | none => return p.type

/-- Takes a type that starts with a qualified path. -/
def qualifiedType (g : Grammar) : Parser Ty := tokensOnly (qualifiedPath g false)

/-- Takes the inside of parentheses. -/
def parenthesized (g : Grammar) : Parser Ty := do
  if ← sees (ahead "?") then
    let (_, tokens) ← captured (traitBound g false)
    return .bound [.group .paren tokens]
  else if (← rest).isEmpty then
    return .other [.group .paren []]
  else if ← sees aheadLifetime then
    return .paren (← g (.type true))
  else
    let first ← g (.type true)
    if ← tryOp "," then
      let (_, more) ← captured (commaList (g (.type true)))
      return .other [.group .paren (first.tokens ++ Token.operator "," ++ more)]
    else
      return .paren first

/-- The tokens of a type as a bound in parentheses, if it is a bound.  A bound that has
parentheses already gets no others. -/
def Ty.boundTokens? : Ty → Option (List Token)
  | .path rooted parents last => some [.group .paren (Ty.path rooted parents last).tokens]
  | .bound [.group .paren inner] => some [.group .paren inner]
  | .bound tokens => some [.group .paren tokens]
  | _ => none

/-- Takes a type that starts with parentheses. -/
def parenType (g : Grammar) (sums : Bool) : Parser Ty := do
  let inside ← group .paren (parenthesized g)
  match inside with
  | .bound tokens =>
      let (_, more) ← captured (addedBounds g)
      return if more.isEmpty then .bound tokens else .other (tokens ++ more)
  | .paren type =>
      match type.boundTokens? with
      | some tokens =>
          if sums && (← sees (ahead "+")) then
            let (_, more) ← captured (addedBounds g)
            return .other (tokens ++ more)
          else
            return inside
      | none => return inside
  | _ => return inside

/-- Takes a type in square brackets. -/
def bracketType (g : Grammar) : Parser Ty :=
  group .bracket do
    let elem ← g (.type true)
    if ← tryOp ";" then
      let (_, length) ← captured (g (.expr true))
      return .array elem length
    else
      return .slice elem

/-- Takes a raw pointer. -/
def pointerType (g : Grammar) : Parser Ty := do
  op "*"
  let mutable ← tryWord "mut"
  if !mutable then
    word "const"
  return .pointer mutable (← g (.type false))

/-- Takes a reference. -/
def referenceType (g : Grammar) : Parser Ty := do
  op "&"
  let lifetime ← tryLifetime
  let mutable ← tryWord "mut"
  return .reference lifetime mutable (← g (.type false))

/-- Takes a trait object that starts with `dyn`.  One with a star is written as it
stands. -/
def dynType (g : Grammar) (sums : Bool) : Parser Unit :=
  formed do
    word "dyn"
    let starred ← tryOp "*"
    bounds g sums false false
    return ((), if starred then .verbatim else .canonical)

/-- Takes a type, which writes anything. -/
def typeNode (g : Grammar) (sums : Bool) : Parser Ty := do
  let ts ← rest
  if aheadWord "for" ts then
    genericType g sums
  else if aheadGroup .paren ts then
    parenType g sums
  else if aheadFunctionType ts then
    tokensOnly (functionType g)
  else if ahead "<" ts then
    qualifiedType g
  else if aheadName ts || aheadWords pathWords ts || ahead "::" ts then
    pathType g sums
  else if aheadGroup .bracket ts then
    bracketType g
  else if ahead "*" ts then
    pointerType g
  else if ahead "&" ts then
    referenceType g
  else if aheadWord "dyn" ts then
    tokensOnly (dynType g sums)
  else
    tokensOnly do
      if ← tryWord "impl" then
        bounds g sums true true
      else if ← sees aheadLifetime then
        bounds g true false false
      else if ← tryOp "!" then
        return ()
      else
        word "_"

/-- Takes a type. -/
def typeOf (g : Grammar) (sums : Bool) : Parser Ty := rewritten (typeNode g sums) Ty.tokens

end EntityBinding.Source
