import EntityBinding.Source.Grammar.Pattern

/-!
# Expressions

An expression is an operand with binary operators and operands after it.  An operand is
an atom, with operators before it and calls, fields and indices after it.

`operatorsOf` reads the operators that bind at least as tightly as a precedence, and
`operandOf` reads a right operand with the operators that bind more tightly than the one
before it.  Comparisons do not chain, and a range is no left operand.

Where a block has to follow, as after the condition of `if`, an expression may not start
a struct, so that the curly bracket is the block.
-/

namespace EntityBinding.Source

open Source.Parser

/-! ## Operators -/

/-- The binary operators with their precedences.  An operator comes before those that it
starts with. -/
def binaryOperators : List (String × Precedence) := [
  ("+=", .assign), ("-=", .assign), ("*=", .assign), ("/=", .assign), ("%=", .assign),
  ("^=", .assign), ("&=", .assign), ("|=", .assign), ("<<=", .assign), (">>=", .assign),
  ("&&", .and), ("||", .or), ("<<", .shift), (">>", .shift), ("==", .compare),
  ("<=", .compare), ("!=", .compare), (">=", .compare), ("+", .sum), ("-", .sum),
  ("*", .product), ("/", .product), ("%", .product), ("^", .bitXor), ("&", .bitAnd),
  ("|", .bitOr), ("<", .compare), (">", .compare)]

/-- The binary operator at the head. -/
def binaryOperator? (ts : List Token) : Option (String × Precedence) :=
  binaryOperators.find? fun (s, _) => ahead s ts

/-- Whether the equals sign of an assignment stands at the head. -/
def aheadAssign (ts : List Token) : Bool := ahead "=" ts && !ahead "=>" ts

/-- The precedence of what stands at the head. -/
def precedence (ts : List Token) : Precedence :=
  match binaryOperator? ts with
  | some (_, p) => p
  | none =>
      if aheadAssign ts then .assign
      else if ahead ".." ts then .range
      else if aheadWord "as" ts then .cast
      else .lowest

/-- Whether a dot and no range stands at the head. -/
def aheadDot (ts : List Token) : Bool := ahead "." ts && !ahead ".." ts

/-- Whether a range without an end ends here. -/
def endsOpenRange (structs : Bool) (ts : List Token) : Bool :=
  ts.isEmpty || aheadDot ts || (!structs && aheadGroup .brace ts) || aheadWord "as" ts ||
    aheadAny [",", ";", "?", "=>", "=", "+", "/", "%", "^", ">", "<=", "!=", "-=", "*=", "&=",
      "|=", "<<="] ts

/-- Some tokens with parentheses around a block at the head. -/
def encloseBlock : List Token → List Token
  | .group .brace inner :: rest =>
      if ahead "#" inner && ahead "!" (inner.drop 1) then .group .brace inner :: rest
      else .group .paren [.group .brace inner] :: rest
  | ts => ts

/-- Takes the dots of a range with its end.  Where a block has to follow, an end that starts
with a block gets parentheses around the block. -/
def openRange (g : Grammar) (structs : Bool) : Parser Unit := do
  guarded !(← sees (ahead "..."))
  if ← tryOp "..=" then
    discard <| rewritten (captured (g (.operand structs .range))) fun (_, ts) =>
      if structs then ts else encloseBlock ts
  else
    op ".."
    if !(← sees (endsOpenRange structs)) then
      discard <| g (.operand structs .range)

/-- Whether something stands at the head that may not follow a cast. -/
def aheadTrailer (ts : List Token) : Bool :=
  aheadDot ts || ahead "?" ts || aheadGroup .bracket ts || aheadGroup .paren ts

/-- Takes the binary operators after the operand `left`, as far as they bind at least as
tightly as `least`. -/
def operatorsOf (g : Grammar) (structs : Bool) (left : Shape) (least : Precedence) :
    Parser Shape := do
  let ts ← rest
  if left = .range then
    return left
  else
    match binaryOperator? ts with
    | some (s, p) =>
        if p.rank < least.rank then
          return left
        else
          guarded !(p = .compare && left = .comparison)
          op s
          discard <| g (.operand structs p)
          g (.operators structs (if p = .compare then .comparison else .plain) least)
    | none =>
        if least.rank ≤ Precedence.assign.rank && aheadAssign ts then
          op "="
          discard <| g (.operand structs .assign)
          g (.operators structs .plain least)
        else if least.rank ≤ Precedence.range.rank && ahead ".." ts then
          openRange g structs
          return .range
        else if least.rank ≤ Precedence.cast.rank && aheadWord "as" ts then
          word "as"
          discard <| g (.type false)
          guarded !(← sees aheadTrailer)
          g (.operators structs .plain least)
        else
          return left

/-- Takes the operators after a right operand that bind more tightly than the one before
it, at most `fuel` times.  An assignment also takes the assignments after it. -/
def operandUpTo (g : Grammar) (structs : Bool) (p : Precedence) : Nat → Shape → Parser Shape
  | 0, shape => return shape
  | fuel + 1, shape => do
      let ts ← rest
      let next := precedence ts
      if p.rank < next.rank || (next = p && p = .assign) then
        let shape ← g (.operators structs shape next)
        if (← rest).length = ts.length then
          return shape
        else
          operandUpTo g structs p fuel shape
      else
        return shape

/-- Takes the right operand of an operator. -/
def operandOf (g : Grammar) (structs : Bool) (p : Precedence) : Parser Shape := do
  let shape ← g (.unary structs)
  let ts ← rest
  operandUpTo g structs p ts.length shape

/-! ## Trailers -/

/-- The tokens of the positions that a number with a point stands for after a dot, and
whether a further member has to follow. -/
def positions? (text : String) : Option (List Token × Bool) :=
  match (text.splitOn ".").map position? with
  | [some first, some second] =>
      some (positionToken first :: Token.operator "." ++ [positionToken second], false)
  | [some first, none] =>
      if text.endsWith "." then some (positionToken first :: Token.operator ".", true) else none
  | _ => none

/-- Takes arguments in parentheses. -/
def callArguments (g : Grammar) : Parser Unit :=
  group .paren (discard <| commaList (g (.expr true)))

/-- Takes the member that follows a dot, which may be a method with its arguments. -/
def memberAccess (g : Grammar) : Parser Unit := do
  if ← tryWord "await" then
    return ()
  else if ← member then
    if ← sees (ahead "::") then
      discard <| rewritten (angledArguments g) Arguments.tokens
      callArguments g
    else if ← sees (aheadGroup .paren) then
      callArguments g

/-- Takes what follows a dot. -/
def dotAccess (g : Grammar) : Parser Unit := do
  match ← rest with
  | .literal (.float text) :: _ =>
      match positions? text with
      | some (tokens, more) =>
          dropped (discard next)
          write tokens
          if more then
            memberAccess g
      | none => failure
  | _ => memberAccess g

/-- Takes a call, a field, an index or a question mark after an operand, if there is one,
and says whether there is. -/
def trailer (g : Grammar) (shape : Shape) : Parser Bool := do
  let ts ← rest
  if aheadGroup .paren ts then
    callArguments g
    return true
  else if aheadGroup .bracket ts then
    group .bracket (discard <| g (.expr true))
    return true
  else if shape = .range then
    return false
  else if aheadDot ts then
    op "."
    dotAccess g
    return true
  else
    tryOp "?"

/-- Takes what follows an operand, at most `fuel` times. -/
def trailersUpTo (g : Grammar) : Nat → Shape → Parser Shape
  | 0, shape => return shape
  | fuel + 1, shape => do
      if ← trailer g shape then
        trailersUpTo g fuel .plain
      else
        return shape

/-- Takes what follows an operand. -/
def trailers (g : Grammar) (shape : Shape) : Parser Shape := do
  let ts ← rest
  trailersUpTo g (ts.length + 1) shape

/-! ## Lookaheads -/

/-- Whether an expression stands at the head that ends a statement by itself. -/
def aheadBlockLike (ts : List Token) : Bool :=
  aheadWords ["if", "while", "loop", "match", "unsafe"] ts || aheadGroup .brace ts ||
    aheadLifetime ts || (aheadWord "for" ts && !aheadParameters (ts.drop 1)) ||
    (aheadWords ["try", "const"] ts && aheadGroup .brace (ts.drop 1))

/-- Whether a closure stands at the head. -/
def aheadClosure (ts : List Token) : Bool :=
  ahead "|" ts || aheadWords ["move", "static", "const", "for"] ts ||
    (aheadWord "async" ts && (ahead "|" (ts.drop 1) || aheadWord "move" (ts.drop 1)))

/-- Whether a block stands at the head that runs later. -/
def aheadAsyncBlock (ts : List Token) : Bool :=
  aheadWord "async" ts && (aheadGroup .brace (ts.drop 1) ||
    (aheadWord "move" (ts.drop 1) && aheadGroup .brace (ts.drop 2)))

/-- Whether an expression stands at the head that starts with a path. -/
def aheadPathExpr (ts : List Token) : Bool :=
  aheadName ts || aheadAny ["::", "<"] ts || aheadWords pathWords ts ||
    (aheadWord "try" ts && aheadAny ["!", "::"] (ts.drop 1))

/-- Whether any expression stands at the head. -/
def aheadExpr (ts : List Token) : Bool :=
  (aheadIdent ts && !aheadWord "as" ts) || aheadAnyGroup ts || aheadLiteral ts ||
    aheadLifetime ts || (ahead "!" ts && !ahead "!=" ts) ||
    (ahead "-" ts && !aheadAny ["-=", "->"] ts) || (ahead "*" ts && !ahead "*=" ts) ||
    (ahead "|" ts && !ahead "|=" ts) || (ahead "&" ts && !ahead "&=" ts) ||
    (ahead "<" ts && !aheadAny ["<=", "<<="] ts) || aheadAny ["..", "::", "#"] ts

/-! ## Expressions with blocks -/

/-- Takes the condition of `if` or `while`, or another expression before a block. -/
def head (g : Grammar) : Parser Unit := discard <| g (.expr false)

/-- Takes an arm of `match`. -/
def arm (g : Grammar) : Parser Unit := do
  discard <| attributes g
  discard <| alternatives g
  if ← tryWord "if" then
    discard <| g (.expr true)
  op "=>"
  let shape ← g .leading
  if shape = .blockLike || (← rest).isEmpty then
    discard <| tryOp ","
  else
    op ","

/-- Takes the branches of `if`, read after the word. -/
def branches (g : Grammar) : Parser Unit := do
  head g
  block g
  repeatWhile do
    if ← tryWord "else" then
      if ← tryWord "if" then
        head g
        block g
        return true
      else
        block g
        return false
    else
      return false

/-- Takes an expression that ends a statement by itself. -/
def blockLike (g : Grammar) : Parser Unit := do
  if ← sees aheadLifetime then
    discard lifetime
    op ":"
    guarded (← sees fun ts => aheadWords ["while", "for", "loop"] ts || aheadGroup .brace ts)
  if ← tryWord "if" then
    branches g
  else if ← tryWord "while" then
    head g
    body g
  else if ← tryWord "for" then
    discard <| alternatives g
    word "in"
    head g
    body g
  else if ← tryWord "loop" then
    body g
  else if ← tryWord "match" then
    head g
    group .brace do
      innerAttributes g
      discard <| collectUntil List.isEmpty (arm g)
  else
    if ← tryWord "try" then
      block g
    else
      if ← sees (aheadWords ["unsafe", "const"]) then
        discard anyIdent
      body g

/-- Whether a call of a built-in form stands at the head. -/
def aheadBuiltin (ts : List Token) : Bool := aheadWord "builtin" ts && ahead "#" (ts.drop 1)

/-- Whether an operand stands at the head of which only the tokens are kept. -/
def aheadVerbatim (ts : List Token) : Bool :=
  aheadWord "become" ts || (aheadBuiltin ts && !aheadTrailer (ts.drop 4))

/-- Takes the attributes of an expression that is a statement or the body of a match arm.
They are lost if the expression starts with an operand of which only the tokens are kept. -/
def leadingAttributes (g : Grammar) : Parser Unit :=
  discard <| keptIf do
    discard <| attributes g
    return !(← sees aheadVerbatim)

/-- Takes an expression that is a statement or the body of a match arm. -/
def leadingOf (g : Grammar) : Parser Shape := do
  leadingAttributes g
  if ← sees aheadBlockLike then
    blockLike g
    if ← sees fun ts => aheadDot ts || ahead "?" ts then
      let shape ← trailers g .blockLike
      g (.operators true shape .lowest)
    else
      return .blockLike
  else
    g (.expr true)

/-! ## Atoms -/

/-- Takes a parameter of a closure.  A boxed pattern loses its attributes unless a type follows
it. -/
def closureParameter (g : Grammar) : Parser Unit :=
  discard <| rewritten (do
    let (_, marks) ← captured (attributes g)
    let boxed ← sees (aheadWord "box")
    let (_, pattern) ← captured (g .pattern)
    if ← sees (ahead ":") then
      let (_, type) ← captured do
        op ":"
        g (.type true)
      return marks ++ pattern ++ type
    else
      return if boxed then pattern else marks ++ pattern) id

/-- Takes a closure. -/
def closure (g : Grammar) (structs : Bool) : Parser Unit := do
  discard <| tryBinder g
  discard <| tryWord "const"
  discard <| tryWord "static"
  discard <| tryWord "async"
  discard <| tryWord "move"
  op "|"
  discard <| separated (ahead "|") "," (closureParameter g)
  op "|"
  if ← tryOp "->" then
    discard <| g (.type true)
    block g
  else
    discard <| g (.expr structs)

/-- Takes a field of a struct, or the value that the other fields come from.  Only the field
may have attributes. -/
def fieldValue (g : Grammar) : Parser Unit := do
  if ← tryOp ".." then
    if !(← rest).isEmpty then
      discard <| g (.expr true)
      guarded (← rest).isEmpty
  else
    discard <| attributes g
    let named ← member
    if !named || (← sees (ahead ":")) then
      op ":"
      discard <| g (.expr true)

/-- Takes an expression that starts with a path: a value, a macro call or a struct. -/
def pathExpr (g : Grammar) (structs : Bool) : Parser Shape := do
  let plain ← valuePath g
  if plain && (← sees aheadBang) then
    let braced ← macroCall
    return if braced then .bracedCall else .plain
  else
    if structs && (← sees (aheadGroup .brace)) then
      group .brace (discard <| commaList (fieldValue g))
    return .plain

/-- Takes the inside of square brackets: the elements of an array, or one element and the
number of its copies. -/
def elements (g : Grammar) : Parser Unit := do
  if !(← rest).isEmpty then
    discard <| g (.expr true)
    if ← tryOp ";" then
      discard <| g (.expr true)
    else if ← tryOp "," then
      discard <| commaList (g (.expr true))

/-- Takes an expression that leaves a loop or a function, read after the word. -/
def jumpValue (g : Grammar) (structs : Bool) : Parser Unit := do
  if ← sees fun ts => aheadExpr ts && (structs || !aheadGroup .brace ts) then
    discard <| g (.expr true)

/-- Takes the condition that a pattern matches a value. -/
def letExpr (g : Grammar) (structs : Bool) : Parser Unit := do
  word "let"
  discard <| alternatives g
  op "="
  let shape ← g (.unary structs)
  discard <| g (.operators structs shape .compare)

/-- Takes an atom that starts with a word of its own. -/
def wordExpr (g : Grammar) (structs : Bool) : Parser Unit := do
  if ← sees (aheadWord "let") then
    letExpr g structs
  else if ← tryWord "break" then
    discard tryLifetime
    jumpValue g structs
  else if ← tryWord "continue" then
    discard tryLifetime
  else if ← tryWord "return" then
    jumpValue g true
  else if ← tryWord "yield" then
    jumpValue g true
  else
    word "_"

/-- Takes an atom of which only the tokens are kept. -/
def verbatimExpr (g : Grammar) : Parser Unit :=
  asItStands do
    if ← tryWord "become" then
      discard <| g (.expr true)
    else
      word "builtin"
      op "#"
      discard name
      guarded (← sees (aheadGroup .paren))
      discard anyGroup

/-- Takes an atom. -/
def atom (g : Grammar) (structs : Bool) : Parser Shape := do
  let ts ← rest
  if aheadLiteral ts then
    literal
    return .plain
  else if aheadAsyncBlock ts then
    word "async"
    discard <| tryWord "move"
    block g
    return .plain
  else if aheadBlockLike ts then
    blockLike g
    return .blockLike
  else if aheadClosure ts then
    closure g structs
    return .plain
  else if aheadWord "become" ts || aheadBuiltin ts then
    verbatimExpr g
    return .verbatim
  else if aheadPathExpr ts then
    pathExpr g structs
  else if aheadGroup .paren ts then
    group .paren (discard <| commaList (g (.expr true)))
    return .plain
  else if aheadGroup .bracket ts then
    group .bracket (elements g)
    return .plain
  else if ahead ".." ts then
    openRange g structs
    return .range
  else
    wordExpr g structs
    return .plain

/-- Takes the operand of an operator that stands before it. -/
def afterOperator (g : Grammar) (structs : Bool) : Parser (Shape × Form) := do
  discard <| g (.unary structs)
  return (.plain, .canonical)

/-- Takes an expression without binary operators.  A range that starts with its dots has no
attributes. -/
def unaryOf (g : Grammar) (structs : Bool) : Parser Shape :=
  formed do
    let marks ← attributes g
    if ← tryOp "&" then
      if ← sees fun ts => aheadWord "raw" ts && aheadWords ["mut", "const"] (ts.drop 1) then
        word "raw"
        discard anyIdent
      else
        discard <| tryWord "mut"
      afterOperator g structs
    else if ← tryOps ["*", "!", "-"] then
      afterOperator g structs
    else
      let shape ← trailers g (← atom g structs)
      guarded (marks.isEmpty || shape ≠ .range)
      return (shape, if shape = .verbatim then .verbatim else .canonical)

/-- Takes an expression. -/
def exprOf (g : Grammar) (structs : Bool) : Parser Shape := do
  let shape ← g (.unary structs)
  g (.operators structs shape .lowest)

end EntityBinding.Source
