import EntityBinding.Source.Literal
import EntityBinding.Text.Escape
import EntityBinding.Text.WhiteSpace

/-!
# From text to tokens

`tokens?` reads a source text as a list of token trees, if its delimiters match and
every character belongs to some token.

White space and comments separate tokens.  Comments in `/* … */` nest.  A
documentation comment is the attribute `#[doc = "…"]`, or `#![doc = "…"]` if it is one
for the item that it stands in.
-/

namespace EntityBinding.Source

open Text (isIdentifierStart isWhiteSpace quote takeIdentifier?)

/-! ## Comments and white space -/

/-- The inside of a nesting comment, read after its opening, and what follows its end.
The inside so far is `done`, last character first. -/
def takeComment? (depth : Nat) (done : List Char) : List Char → Option (List Char × List Char)
  | [] => none
  | '/' :: '*' :: rest => takeComment? (depth + 1) ('*' :: '/' :: done) rest
  | '*' :: '/' :: rest =>
      match depth with
      | 0 => some (done.reverse, rest)
      | depth + 1 => takeComment? depth ('/' :: '*' :: done) rest
  | c :: rest => takeComment? depth (c :: done) rest

/-- A line without its end, and the text from the end of the line on. -/
def takeLine : List Char → List Char × List Char
  | [] => ([], [])
  | '\n' :: rest => ([], '\n' :: rest)
  | '\r' :: '\n' :: rest => ([], '\r' :: '\n' :: rest)
  | c :: rest =>
      let (line, rest) := takeLine rest
      (c :: line, rest)

/-- Whether a character separates tokens: white space, or a mark of the direction of
writing. -/
def isSeparator (c : Char) : Bool := isWhiteSpace c || c == '\u200E' || c == '\u200F'

/-- What follows the comment at the head of a text, if one stands there that is no
documentation. -/
def skipComment? : List Char → Option (List Char)
  | '/' :: '/' :: '!' :: _ => none
  | '/' :: '/' :: '/' :: '/' :: rest => some (takeLine rest).2
  | '/' :: '/' :: '/' :: _ => none
  | '/' :: '/' :: rest => some (takeLine rest).2
  | '/' :: '*' :: '*' :: '/' :: rest => some rest
  | '/' :: '*' :: '!' :: _ => none
  | '/' :: '*' :: '*' :: '*' :: rest => (takeComment? 0 [] ('*' :: '*' :: rest)).map (·.2)
  | '/' :: '*' :: '*' :: _ => none
  | '/' :: '*' :: rest => (takeComment? 0 [] rest).map (·.2)
  | _ => none

/-- A text without the white space and the comments at its head. -/
def skipSeparators : Nat → List Char → List Char
  | 0, cs => cs
  | _ + 1, [] => []
  | fuel + 1, c :: rest =>
      match skipComment? (c :: rest) with
      | some after => skipSeparators fuel after
      | none => if isSeparator c then skipSeparators fuel rest else c :: rest

/-- The documentation at the head of a text, whether it is for the item that it stands
in, and what follows. -/
def takeDocumentation? : List Char → Option (List Char × Bool × List Char)
  | '/' :: '/' :: '!' :: rest =>
      let (line, rest) := takeLine rest
      some (line, true, rest)
  | '/' :: '/' :: '/' :: rest =>
      let (line, rest) := takeLine rest
      some (line, false, rest)
  | '/' :: '*' :: '!' :: rest =>
      (takeComment? 0 [] rest).map fun (comment, rest) => (comment, true, rest)
  | '/' :: '*' :: '*' :: rest =>
      (takeComment? 0 [] rest).map fun (comment, rest) => (comment, false, rest)
  | _ => none

/-- Whether every carriage return of a text is followed by a line feed. -/
def hasWholeLineEnds : List Char → Bool
  | [] => true
  | '\r' :: '\n' :: rest => hasWholeLineEnds rest
  | '\r' :: _ => false
  | _ :: rest => hasWholeLineEnds rest

/-- The attribute that a documentation comment stands for. -/
def documentationTokens (comment : List Char) (inner : Bool) : List Token :=
  [.punct '#' false] ++ (if inner then [.punct '!' false] else []) ++
    [.group .bracket [.word "doc", .punct '=' false,
      .literal (.string (String.ofList (quote comment)) (String.ofList comment))]]

/-! ## Tokens without delimiters -/

/-- The identifier at the head of a text, raw or not, and what follows. -/
def takeIdent? : List Char → Option (Ident × List Char)
  | 'r' :: '#' :: rest =>
      match takeIdentifier? rest with
      | some (name, rest) =>
          let name := String.ofList name
          if ["_", "super", "self", "Self", "crate"].contains name then none
          else some (⟨true, name⟩, rest)
      | none => none
  | cs => (takeIdentifier? cs).map fun (name, rest) => (⟨false, String.ofList name⟩, rest)

/-- The openings of strings, which are no identifiers. -/
def stringOpenings : List String :=
  ["r\"", "r#\"", "r##", "b\"", "b'", "br\"", "br#", "c\"", "cr\"", "cr#"]

/-- Whether a text opens a string. -/
def opensString (cs : List Char) : Bool := stringOpenings.any fun s => s.toList.isPrefixOf cs

/-- Whether a punctuation character stands at the head of a text.  The slash of a comment
is none. -/
def startsPunct : List Char → Bool
  | '/' :: '/' :: _ | '/' :: '*' :: _ => false
  | c :: _ => "~!@#$%^&*-=+|;:,<.>/?'".toList.contains c
  | [] => false

/-- The text of a literal that stands for what could not be printed.  It is no group. -/
def placeholder : String := "(/*ERROR*/)"

/-- Whether the literal that stands for what could not be printed is at the head of a text. -/
def startsPlaceholder (cs : List Char) : Bool := placeholder.toList.isPrefixOf cs

/-- The lifetime at the head of a text, read after its quote, and what follows.  A quote before
the letters of a string is a token of its own. -/
def takeLifetime? (cs : List Char) : Option (Token × List Char) :=
  match takeIdent? cs with
  | none | some (_, '\x27' :: _) => none
  | some (id, rest) =>
      if rest.head? = some '#' ∧ !id.raw then
        none
      else if opensString cs then
        (takeLiteral? cs).map fun _ => (.punct '\x27' true, cs)
      else
        some (.lifetime id, rest)

/-- The token at the head of a text that is no group, and what follows. -/
def takeLeaf? (cs : List Char) : Option (Token × List Char) :=
  match takeLiteral? cs with
  | some (lit, rest) => some (.literal lit, rest)
  | none =>
      match cs with
      | [] => none
      | c :: rest =>
          if c = '\x27' then
            takeLifetime? rest
          else if startsPunct cs then
            some (.punct c (startsPunct rest), rest)
          else if startsPlaceholder cs then
            some (.literal (.other placeholder), cs.drop placeholder.length)
          else if opensString cs then
            none
          else
            (takeIdent? cs).map fun (id, rest) => (.ident id, rest)

/-! ## Groups -/

/-- The delimiter that opens at the head of a text. -/
def opened? (cs : List Char) : Option Delimiter :=
  match cs with
  | '(' :: _ => if startsPlaceholder cs then none else some .paren
  | '[' :: _ => some .bracket
  | '{' :: _ => some .brace
  | _ => none

/-- The delimiter that a character closes. -/
def closed? : Char → Option Delimiter
  | ')' => some .paren
  | ']' => some .bracket
  | '}' => some .brace
  | _ => none

/-- The token trees of a text.  The trees of the innermost group that is open come in
`done`, last one first, and `stack` holds the groups around it. -/
def scan : Nat → List Token → List (Delimiter × List Token) → List Char → Option (List Token)
  | 0, _, _, _ => none
  | fuel + 1, done, stack, cs =>
      match skipSeparators cs.length cs with
      | [] => if stack.isEmpty then some done.reverse else none
      | c :: rest =>
          match takeDocumentation? (c :: rest) with
          | some (comment, inner, after) =>
              if hasWholeLineEnds comment then
                scan fuel ((documentationTokens comment inner).reverse ++ done) stack after
              else
                none
          | none =>
              match opened? (c :: rest), closed? c, stack with
              | some d, _, _ => scan fuel [] ((d, done) :: stack) rest
              | none, some d, (open_, outer) :: stack =>
                  if d = open_ then scan fuel (.group d done.reverse :: outer) stack rest else none
              | none, some _, [] => none
              | none, none, _ =>
                  match takeLeaf? (c :: rest) with
                  | some (t, after) => scan fuel (t :: done) stack after
                  | none => none

/-- The byte order mark. -/
def byteOrderMark : Char := '\uFEFF'

/-- A text without a byte order mark at its head. -/
def dropByteOrderMark : List Char → List Char
  | [] => []
  | c :: rest => if c = byteOrderMark then rest else c :: rest

/-- The token trees of a text. -/
def tokens? (cs : List Char) : Option (List Token) :=
  let text := dropByteOrderMark cs
  scan (text.length + 1) [] [] text

/-- A file without the line that names its interpreter, if it has one.  Such a line starts
with `#!`, and the next token is no bracket. -/
def dropInterpreterLine : List Char → List Char
  | '#' :: '!' :: rest =>
      match skipSeparators rest.length rest with
      | '[' :: _ => '#' :: '!' :: rest
      | _ => rest.dropWhile (· ≠ '\n')
  | cs => cs

/-- The token trees of a file. -/
def fileTokens? (text : String) : Option (List Token) :=
  tokens? (dropInterpreterLine (dropByteOrderMark text.toList))

end EntityBinding.Source
