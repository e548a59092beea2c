import EntityBinding.Source.Grammar.Statement
import EntityBinding.Source.Scan

/-!
# Reading source text

`parseFile?` reads the items of a file, and `parseType?` reads one type.  Neither gives
anything if the text is not well formed.

The grammar goes into a group or takes a token after a fixed number of calls, so the
depth of the calls is bounded by the number of token trees.
-/

namespace EntityBinding.Source

/-- The reader of each category, made from readers of the parts. -/
def grammarStep (g : Grammar) : Grammar
  | .type sums => typeOf g sums
  | .bound captures consts => boundOf g captures consts
  | .expr structs => exprOf g structs
  | .leading => leadingOf g
  | .unary structs => unaryOf g structs
  | .operators structs left least => operatorsOf g structs left least
  | .operand structs p => operandOf g structs p
  | .pattern => patternOf g
  | .statements => statementsOf g
  | .item => itemOf g
  | .fields => namedFields g
  | .imports rooted => importsOf g rooted

/-- The depth of calls that suffices for some tokens. -/
def callDepth (ts : List Token) : Nat := 16 * (Token.listSize ts + 4)

/-- The grammar, deep enough for some tokens. -/
def grammarFor (ts : List Token) : Grammar := Grammar.ofStep grammarStep (callDepth ts)

/-- The items of a file. -/
def parseFile? (text : String) : Option (List Item) := do
  let ts ← fileTokens? text
  Parser.run (items (grammarFor ts)) ts

/-- The type that a text consists of. -/
def parseType? (text : String) : Option Ty := do
  let ts ← tokens? text.toList
  Parser.run (grammarFor ts (.type true)) ts

end EntityBinding.Source
