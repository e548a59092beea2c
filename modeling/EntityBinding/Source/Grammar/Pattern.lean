import EntityBinding.Source.Grammar.Type
import EntityBinding.Source.Literal

/-!
# Patterns

`patternOf` reads a pattern without alternatives, and `alternatives` reads patterns with
`|` in between.  The result says whether the pattern is a range with an open end, which
has to stand in parentheses inside of a slice.
-/

namespace EntityBinding.Source

open Source.Parser

/-! ## Lookaheads -/

/-- Whether a further alternative stands at the head. -/
def aheadAlternative (ts : List Token) : Bool := ahead "|" ts && !aheadAny ["||", "|="] ts

/-- Whether a range ends here without a bound. -/
def endsRange (ts : List Token) : Bool :=
  ts.isEmpty || aheadAny ["|", "=", ",", ";"] ts || (ahead ":" ts && !ahead "::" ts) ||
    aheadWord "if" ts

/-- Whether a pattern stands at the head that starts with a path. -/
def aheadPathPattern (ts : List Token) : Bool :=
  let second := ts.drop 1
  (aheadName ts && (aheadAny ["::", "!", ".."] second || aheadGroup .brace second ||
      aheadGroup .paren second)) ||
    (aheadWord "self" ts && ahead "::" second) ||
    aheadAny ["::", "<"] ts || aheadWords ["Self", "super", "crate"] ts

/-! ## Ranges -/

/-- Takes the bound of a range if there is one, and says whether there is. -/
def rangeBound (g : Grammar) : Parser Bool := do
  if ← sees endsRange then
    return false
  else if ← sees aheadLiteral then
    literal
    return true
  else if ← tryWord "const" then
    body g
    return true
  else
    discard <| valuePath g
    return true

/-- Takes the end of a range, and says whether it is open. -/
def rangeEnd (g : Grammar) : Parser Bool := do
  if ← sees (ahead "...") then
    rewritten (op "...") fun _ => Token.operator "..="
    guarded (← rangeBound g)
    return false
  else if ← tryOp "..=" then
    guarded (← rangeBound g)
    return false
  else
    op ".."
    return !(← rangeBound g)

/-! ## Patterns -/

/-- Takes alternatives. -/
def alternatives (g : Grammar) : Parser Bool := do
  let leading ← tryOp "|"
  let isOpen ← g .pattern
  let several ← sees aheadAlternative
  repeatWhile do
    if ← sees aheadAlternative then
      op "|"
      discard <| g .pattern
      return true
    else
      return false
  return isOpen && !leading && !several

/-- The token of a position. -/
def positionToken (n : Nat) : Token := .literal (.integer (toString n))

/-- Takes a member of a struct, and says whether it is a name.  A position is written in
decimal. -/
def member : Parser Bool := do
  match ← rest with
  | .literal (.integer text) :: _ =>
      match position? text with
      | some n =>
          discard <| rewritten next fun _ => [positionToken n]
          return false
      | none => failure
  | _ =>
      discard name
      return true

/-- Takes a field of a struct pattern. -/
def fieldPattern (g : Grammar) : Parser Unit := do
  discard <| attributes g
  if ← tryOp ".." then
    guarded (← rest).isEmpty
  else
    let start ← rest
    discard <| tryWord "box"
    discard <| tryWord "ref"
    discard <| tryWord "mut"
    let bare := (← rest).length = start.length
    let named ← member
    guarded (bare || named)
    if !named || (bare && (← sees (ahead ":"))) then
      op ":"
      discard <| alternatives g

/-- Takes a pattern that starts with a path. -/
def pathPattern (g : Grammar) : Parser Bool := do
  let plain ← valuePath g
  if plain && (← sees aheadBang) then
    discard macroCall
    return false
  else if ← sees (aheadGroup .brace) then
    group .brace (discard <| commaList (fieldPattern g))
    return false
  else if ← sees (aheadGroup .paren) then
    group .paren (discard <| commaList (alternatives g))
    return false
  else if ← sees (ahead "..") then
    rangeEnd g
  else
    return false

/-- Takes a pattern that starts with a value. -/
def valuePattern (g : Grammar) : Parser Bool := do
  guarded (← rangeBound g)
  if ← sees (ahead "..") then
    rangeEnd g
  else
    return false

/-- Takes a pattern that binds a name. -/
def namePattern (g : Grammar) : Parser Unit := do
  discard <| tryWord "ref"
  discard <| tryWord "mut"
  if ← sees (aheadWord "self") then
    discard anyIdent
  else
    discard name
  if ← tryOp "@" then
    discard <| g .pattern

/-- Takes a pattern that is a range without a start, or that stands for the rest.  Only
the range has an open end. -/
def restPattern (g : Grammar) : Parser Bool := do
  guarded !(← sees (ahead "..."))
  let isRest ← rangeEnd g
  return !isRest

/-- Takes a pattern without alternatives. -/
def patternOf (g : Grammar) : Parser Bool := do
  let ts ← rest
  if aheadPathPattern ts then
    pathPattern g
  else if aheadLiteral ts || ahead "-" ts || aheadWord "const" ts then
    valuePattern g
  else if ahead ".." ts then
    restPattern g
  else
    if ← tryWord "_" then
      return false
    else if ← sees (aheadWord "box") then
      asItStands do
        word "box"
        discard <| g .pattern
    else if ← tryOp "&" then
      discard <| tryWord "mut"
      discard <| g .pattern
    else if ← sees (aheadGroup .paren) then
      group .paren (discard <| commaList (alternatives g))
    else if ← sees (aheadGroup .bracket) then
      group .bracket <| discard <| commaList do
        guarded !(← alternatives g)
    else
      namePattern g
    return false

end EntityBinding.Source
