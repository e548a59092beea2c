import EntityBinding.Source.Grammar.Item

/-!
# Statements

`statementsOf` reads the statements of a block.  A statement is a binding, an item, the call
of a macro in curly brackets, or an expression.  An expression needs a semicolon before the
next statement unless it ends by itself.
-/

namespace EntityBinding.Source

open Source.Parser

/-! ## Lookaheads -/

/-- Whether a word before an item is a qualifier of a function. -/
def aheadQualified (ts : List Token) : Bool := aheadWords ["unsafe", "extern", "fn"] ts

/-- Whether a constant and no expression stands at the head. -/
def aheadConstant (ts : List Token) : Bool :=
  let second := ts.drop 1
  aheadWord "const" ts && !aheadGroup .brace second && !aheadWords ["static", "move"] second &&
    !ahead "|" second && !(aheadWord "async" second && !aheadQualified (ts.drop 2))

/-- Whether a static variable and no closure stands at the head. -/
def aheadStatic (ts : List Token) : Bool :=
  aheadWord "static" ts && (aheadWord "mut" (ts.drop 1) || aheadName (ts.drop 1))

/-- Whether an item that is no macro call stands at the head. -/
def aheadItem (ts : List Token) : Bool :=
  let second := ts.drop 1
  aheadWords ["pub", "extern", "use", "fn", "mod", "type", "struct", "enum", "trait", "impl",
      "macro"] ts ||
    (aheadWord "crate" ts && !ahead "::" second) || aheadStatic ts || aheadConstant ts ||
    (aheadWord "unsafe" ts && !aheadGroup .brace second) ||
    (aheadWord "async" ts && aheadQualified second) ||
    (aheadWord "union" ts && aheadName second) ||
    (aheadWord "auto" ts && aheadWord "trait" second) ||
    (aheadWord "default" ts && aheadWords ["unsafe", "impl"] second)

/-- Whether the call of a macro stands at the head that has a name between its exclamation
mark and its brackets. -/
def aheadNamedMacro (ts : List Token) : Bool :=
  match afterPlainPath? ts with
  | some after =>
      ahead "!" after && (aheadName (after.drop 1) || aheadWord "try" (after.drop 1))
  | none => false

/-- Whether the call of a macro in curly brackets stands at the head, and nothing after it
goes on with an expression. -/
def aheadBracedMacro (ts : List Token) : Bool :=
  match afterPlainPath? ts with
  | some after =>
      ahead "!" after && aheadGroup .brace (after.drop 1) && !aheadDot (after.drop 2) &&
        !ahead "?" (after.drop 2)
  | none => false

/-! ## Statements -/

/-- Whether tokens end with curly brackets. -/
def endsInBrace (ts : List Token) : Bool :=
  match ts.getLast? with
  | some (.group .brace _) => true
  | _ => false

/-- Takes a binding. -/
def binding (g : Grammar) : Parser Unit := do
  word "let"
  discard <| g .pattern
  if ← tryOp ":" then
    discard <| g (.type true)
  if ← tryOp "=" then
    let (_, value) ← captured (g (.expr true))
    if !endsInBrace value && (← sees (aheadWord "else")) then
      word "else"
      block g
  op ";"

/-- Takes an expression as a statement, and says whether another one may follow. -/
def exprStatement (g : Grammar) : Parser Bool := do
  let shape ← g .leading
  let closed ← tryOp ";"
  return closed || shape = .blockLike || shape = .bracedCall

/-- Takes a statement, and says whether another one may follow. -/
def statement (g : Grammar) : Parser Bool :=
  formed do
    leadingAttributes g
    let ts ← rest
    if aheadBracedMacro ts then
      discard plainPath
      discard macroCall
      discard <| tryOp ";"
      return (true, .canonical)
    else if aheadWord "let" ts then
      binding g
      return (true, .canonical)
    else if aheadItem ts || aheadNamedMacro ts then
      let (_, form) ← g .item
      return (true, form)
    else
      return (← exprStatement g, .canonical)

/-- Takes the statements of a block, to the end of the tokens. -/
def statementsOf (g : Grammar) : Parser Unit :=
  repeatWhile do
    if (← rest).isEmpty then
      return false
    else if ← tryOp ";" then
      return true
    else
      if !(← statement g) then
        guarded (← rest).isEmpty
      return true

end EntityBinding.Source
