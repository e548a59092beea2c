import EntityBinding.Source.Grammar.Attribute

/-!
# Paths, bounds and generic parameters

A path is a row of segments such as `std::vec::Vec<u8>`.  In an expression the arguments
of a segment need `::` before them, since `<` is an operator there.

A bound is a lifetime or a trait, and a trait is a path that may take parameters in
parentheses, as in `Fn(u8) -> u8`.

Generic parameters are written with the lifetimes first, and empty ones are not written,
nor are a colon without bounds and a `where` clause without conditions.
-/

namespace EntityBinding.Source

open Source.Parser

/-! ## Lookaheads -/

/-- Whether a bound stands at the head, which may be a constant trait if `consts` allows
it. -/
def aheadBound (consts : Bool) (ts : List Token) : Bool :=
  aheadIdent ts || aheadLifetime ts || aheadAny ["::", "?"] ts || aheadGroup .paren ts ||
    (consts && aheadGroup .bracket ts)

/-- Whether arguments in angle brackets stand at the head. -/
def aheadArguments (inExpr : Bool) (ts : List Token) : Bool :=
  (!inExpr && ahead "<" ts && !aheadAny ["<=", "<<="] ts) ||
    (ahead "::" ts && ahead "<" (ts.drop 2))

/-- Whether parameters in parentheses stand at the head. -/
def aheadCall (ts : List Token) : Bool :=
  aheadGroup .paren ts || (ahead "::" ts && aheadGroup .paren (ts.drop 2))

/-- Whether generic parameters and no qualified path stand at the head. -/
def aheadParameters (ts : List Token) : Bool :=
  let second := ts.drop 1
  let third := ts.drop 2
  ahead "<" ts &&
    (aheadAny [">", "#"] second || aheadWord "const" second ||
      ((aheadLifetime second || aheadName second) &&
        ((ahead ":" third && !ahead "::" third) || aheadAny [",", ">", "="] third)))

/-- Whether the bounds of a parameter end here. -/
def endsParameter (ts : List Token) : Bool := ts.isEmpty || aheadAny [",", ">"] ts

/-- Whether a clause of bounds ends here. -/
def endsClause (ts : List Token) : Bool :=
  ts.isEmpty || aheadGroup .brace ts || aheadAny [",", ";", "="] ts ||
    (ahead ":" ts && !ahead "::" ts)

/-! ## Arguments and segments -/

/-- Takes a constant that stands for a parameter. -/
def constantArgument (g : Grammar) : Parser Unit := do
  if ← sees aheadLiteral then
    literal
  else if ← sees aheadName then
    discard name
  else
    body g

/-- Whether a type is a single segment that an associated item may be bound to. -/
def Ty.isBindable : Ty → Bool
  | .path false [] ⟨_, .none⟩ | .path false [] ⟨_, .angled ..⟩ => true
  | _ => false

/-- Takes what follows the name of an associated item: its value or its bounds. -/
def associated (g : Grammar) : Parser Unit := do
  if ← tryOp "=" then
    if ← sees fun ts => aheadLiteral ts || aheadGroup .brace ts then
      constantArgument g
    else
      discard <| g (.type true)
  else
    op ":"
    discard <| separated (aheadAny [",", ">"]) "+" (g (.bound false true))

/-- Takes an argument in angle brackets. -/
def argument (g : Grammar) : Parser Argument := do
  if ← sees fun ts => aheadLifetime ts && !ahead "+" (ts.drop 1) then
    return .lifetime (← lifetime)
  else if ← sees fun ts => aheadLiteral ts || aheadGroup .brace ts then
    let (_, tokens) ← captured (constantArgument g)
    return .constant tokens
  else
    let (type, tokens) ← captured (g (.type true))
    if type.isBindable && (← sees (aheadAny ["=", ":"])) then
      let (_, more) ← captured (associated g)
      return .binding (tokens ++ more)
    else
      return .type type

/-- Takes arguments in angle brackets. -/
def angledArguments (g : Grammar) : Parser Arguments := do
  let turbofish ← tryOp "::"
  op "<"
  let (arguments, comma) ← separated (ahead ">") "," (argument g)
  op ">"
  return .angled turbofish arguments comma

/-- Takes a segment of a path. -/
def segment (g : Grammar) (inExpr : Bool) : Parser Segment := do
  if ← sees (aheadWords ["super", "self", "crate", "try"]) then
    return ⟨← anyIdent, .none⟩
  else
    let id ← if ← sees (aheadWord "Self") then anyIdent else name
    if ← sees (aheadArguments inExpr) then
      return ⟨id, ← rewritten (angledArguments g) Arguments.tokens⟩
    else
      return ⟨id, .none⟩

/-! ## Paths -/

/-- A path of one segment or more. -/
structure Path where
  /-- Whether the path starts with `::`. -/
  rooted : Bool
  /-- The segments before the last one. -/
  parents : List Segment
  /-- The last segment. -/
  last : Segment

namespace Path

/-- The path as a type. -/
def type (p : Path) : Ty := .path p.rooted p.parents p.last

/-- The path with more segments after it. -/
def append (p : Path) : List Segment → Path
  | [] => p
  | s :: rest => append ⟨p.rooted, p.parents ++ [p.last], s⟩ rest

/-- Whether the segments of a path are bare names. -/
def isPlain (p : Path) : Bool :=
  p.parents.all (fun s => s.arguments.isNone) && p.last.arguments.isNone

end Path

/-- Takes the segments that follow a path. -/
def moreSegments (g : Grammar) (inExpr : Bool) : Parser (List Segment) :=
  collectUntil (fun ts => !ahead "::" ts || aheadGroup .paren (ts.drop 2)) do
    op "::"
    segment g inExpr

/-- Takes a path without parameters in parentheses. -/
def path (g : Grammar) (inExpr : Bool) : Parser Path := do
  let rooted ← tryOp "::"
  let first ← segment g inExpr
  let more ← moreSegments g inExpr
  return Path.append ⟨rooted, [], first⟩ more

/-- Takes a path that starts with a type in angle brackets, as in `<T as Trait>::Item`. -/
def qualifiedPath (g : Grammar) (inExpr : Bool) : Parser Unit := do
  op "<"
  discard <| g (.type true)
  if ← tryWord "as" then
    discard <| path g false
  op ">"
  op "::"
  discard <| oneOrMore "::" (segment g inExpr)

/-- Takes a path of an expression or a pattern, and says whether it is a row of bare
names. -/
def valuePath (g : Grammar) : Parser Bool := do
  if ← sees (ahead "<") then
    qualifiedPath g true
    return false
  else
    let p ← path g true
    return p.isPlain

/-! ## Parameters in parentheses -/

/-- Takes the result of a function, if it has one. -/
def result (g : Grammar) (sums : Bool) : Parser Unit := do
  if ← tryOp "->" then
    discard <| g (.type sums)

/-- Takes parameters in parentheses with their result. -/
def call (g : Grammar) : Parser Unit := do
  if ← sees (ahead "::") then
    dropped (op "::")
  group .paren (discard <| commaList (g (.type true)))
  result g false

/-- Takes the path of a trait, which may have parameters in parentheses. -/
def traitPath (g : Grammar) : Parser Path :=
  rewritten (do
    let p ← path g false
    if p.last.arguments.isEmpty && (← sees aheadCall) then
      let (_, tokens) ← captured (call g)
      return ⟨p.rooted, p.parents, ⟨p.last.name, .called tokens⟩⟩
    else
      return p) fun p => p.type.tokens

/-! ## Generic parameters -/

/-- Takes a colon and lifetimes with plus signs in between. -/
def outlived (stop : List Token → Bool) : Parser Bool := do
  op ":"
  chained stop "+" (discard lifetime)

/-- Takes bounds with plus signs in between, and says whether there are any. -/
def boundsUntil (g : Grammar) (stop : List Token → Bool) : Parser Bool :=
  chained stop "+" (discard <| g (.bound false true))

/-- Takes a colon and the bounds after it if they are there.  The colon is written only if
there are bounds. -/
def tryBounds (g : Grammar) (stop : List Token → Bool) : Parser Unit := do
  if ← sees (ahead ":") then
    discard <| keptIf do
      op ":"
      boundsUntil g stop

/-- Takes a generic parameter, and says whether it is a lifetime.  A parameter that is
`blank` may be an underscore. -/
def parameter (g : Grammar) (blank : Bool) : Parser Bool := do
  discard <| attributes g
  if ← sees aheadLifetime then
    discard lifetime
    if ← sees (ahead ":") then
      discard <| keptIf (outlived endsParameter)
    return true
  else if ← tryWord "const" then
    discard name
    op ":"
    discard <| g (.type true)
    if ← tryOp "=" then
      constantArgument g
    return false
  else if ← sees fun ts => blank && aheadWord "_" ts then
    word "_"
    return false
  else
    discard name
    tryBounds g fun ts => endsParameter ts || ahead "=" ts
    if ← tryOp "=" then
      discard <| g (.type true)
    return false

/-- Takes parts in angle brackets, of which a reader says whether they are lifetimes, and
writes the lifetimes first.  Says whether there are any parts. -/
def lifetimesThenOthers (p : Parser Bool) : Parser Bool := do
  op "<"
  let (parts, _) ← rewritten (separated (ahead ">") "," (captured p)) fun (parts, comma) =>
    lifetimesFirst comma parts
  op ">"
  return !parts.isEmpty

/-- Takes generic parameters if there are any, and says whether there are angle brackets for
them. -/
def tryParameters (g : Grammar) : Parser Bool := do
  let found ← sees (ahead "<")
  if found then
    discard <| keptIf (lifetimesThenOthers (parameter g true))
  return found

/-- Takes the parameters that a type or a bound is generic in, and says whether there are
any. -/
def tryBinder (g : Grammar) : Parser Bool := do
  let found ← tryWord "for"
  if found then
    op "<"
    discard <| separated (ahead ">") "," (parameter g false)
    op ">"
  return found

/-- Takes the mark of a constant trait if it is there, and says whether it is. -/
def tryConst : Parser Bool := do
  if ← sees (aheadGroup .bracket) then
    group .bracket (word "const")
    return true
  else
    tryWord "const"

/-- Takes a trait as a bound, and says whether it is a constant trait, which `consts`
allows.  A trait with a question mark is not generic in anything. -/
def traitBound (g : Grammar) (consts : Bool) : Parser Bool := do
  let generic ← tryBinder g
  let constant ← tryConst
  guarded (consts || !constant)
  if ← tryOp "?" then
    guarded !generic
  discard <| traitPath g
  return constant

/-- Takes the list of what a type captures. -/
def captures : Parser Unit := do
  word "use"
  discard <| lifetimesThenOthers do
    if ← sees aheadLifetime then
      discard lifetime
      return true
    else if ← tryWord "Self" then
      return false
    else
      discard name
      return false

/-- Takes a bound, and says whether it is a trait.  A constant trait is written as it
stands. -/
def boundOf (g : Grammar) (capturing consts : Bool) : Parser Bool := do
  if ← sees aheadLifetime then
    discard lifetime
    return false
  else if ← sees (aheadWord "use") then
    guarded capturing
    captures
    return false
  else
    formed do
      let constant ←
        if ← sees (aheadGroup .paren) then
          group .paren (traitBound g consts)
        else
          traitBound g consts
      return (true, if constant then .verbatim else .canonical)

/-- Takes a condition of a `where` clause. -/
def condition (g : Grammar) : Parser Unit := do
  if ← sees fun ts => aheadLifetime ts && ahead ":" (ts.drop 1) then
    discard lifetime
    discard <| outlived endsClause
  else
    discard <| tryBinder g
    discard <| g (.type true)
    op ":"
    discard <| boundsUntil g endsClause

/-- Takes a `where` clause if there is one, and says whether there is.  The clause has no
parameters of its own. -/
def tryWhere (g : Grammar) : Parser Bool := do
  let found ← sees (aheadWord "where")
  if found then
    discard <| keptIf do
      word "where"
      guarded !(← sees aheadParameters)
      chained endsClause "," (condition g)
  return found

end EntityBinding.Source
