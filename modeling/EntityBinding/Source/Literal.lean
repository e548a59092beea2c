import EntityBinding.Source.Token
import EntityBinding.Text.Identifier

/-!
# Literals of Rust source

`takeLiteral?` reads the literal at the head of a text, if there is one.

| Literal | Forms |
|---|---|
| a string | `"a\n"`, `r"a\n"`, `r#"a"b"#` |
| bytes, as a string | `b"a"`, `br"a"`, `c"a"`, `cr"a"` |
| a byte, a character | `b'a'`, `'a'` |
| a number | `1`, `0xFF`, `1_000u64`, `1.5`, `1e10` |

Any of them may end in a suffix, which is an identifier without a gap before it.  A
backslash at the end of a line drops the end of the line and the white space after it.
-/

namespace EntityBinding.Source

open Text (isIdentifierStart isIdentifierContinue takeIdentifier?)

/-! ## Digits -/

/-- The value of a hexadecimal digit. -/
def hexDigit? (c : Char) : Option Nat :=
  if '0' ≤ c ∧ c ≤ '9' then some (c.toNat - 0x30)
  else if 'a' ≤ c ∧ c ≤ 'f' then some (c.toNat - 0x57)
  else if 'A' ≤ c ∧ c ≤ 'F' then some (c.toNat - 0x37)
  else none

/-- Whether a number is the code of a character. -/
def isScalar (n : Nat) : Bool := n < 0xD800 || (0xDFFF < n && n < 0x110000)

/-! ## Escapes -/

/-- What a literal in quotes may hold. -/
inductive Content where
  /-- Characters. -/
  | text
  /-- Bytes. -/
  | bytes
  /-- Characters and bytes, none of them zero. -/
  | zeroFree
  deriving DecidableEq

/-- Whether a character may stand unescaped in a literal. -/
def Content.allows (content : Content) (c : Char) : Bool :=
  match content with
  | .text => true
  | .bytes => c.toNat < 0x80
  | .zeroFree => c.toNat ≠ 0

/-- The digits of a code in braces, up to the closing brace, and what follows. -/
def takeCode? (value length : Nat) : List Char → Option (Nat × List Char)
  | [] => none
  | '_' :: rest => if length = 0 then none else takeCode? value length rest
  | '}' :: rest => if length = 0 ∨ !isScalar value then none else some (value, rest)
  | c :: rest =>
      match hexDigit? c with
      | some d => if length = 6 then none else takeCode? (16 * value + d) (length + 1) rest
      | none => none

/-- The rest of a text after the end of a line and the white space behind it. -/
def skipLineEnd? : List Char → Option (List Char)
  | [] => none
  | '\r' :: '\n' :: rest => skipLineEnd? rest
  | '\r' :: _ => none
  | c :: rest => if c = ' ' ∨ c = '\t' ∨ c = '\n' then skipLineEnd? rest else some (c :: rest)

/-- The character of an escape of one letter. -/
def simpleEscape? : Char → Option Char
  | 'n' => some '\n'
  | 'r' => some '\r'
  | 't' => some '\t'
  | '\\' => some '\\'
  | '0' => some '\x00'
  | '\x27' => some '\x27'
  | '"' => some '"'
  | _ => none

/-- The characters that an escape stands for, read after its backslash, and what
follows. -/
def takeEscape? (content : Content) : List Char → Option (List Char × List Char)
  | [] => none
  | 'x' :: high :: low :: rest =>
      match hexDigit? high, hexDigit? low with
      | some h, some l =>
          let value := 16 * h + l
          if (content = .text ∧ 0x80 ≤ value) ∨ (content = .zeroFree ∧ value = 0) then
            none
          else
            some ([Char.ofNat value], rest)
      | _, _ => none
  | 'u' :: '{' :: rest =>
      match takeCode? 0 0 rest with
      | some (value, rest) =>
          if content = .bytes ∨ (content = .zeroFree ∧ value = 0) then
            none
          else
            some ([Char.ofNat value], rest)
      | none => none
  | c :: rest =>
      if c = '\n' ∨ c = '\r' then
        (skipLineEnd? (c :: rest)).map fun rest => ([], rest)
      else if content = .zeroFree ∧ c = '0' then
        none
      else
        (simpleEscape? c).map fun value => ([value], rest)

/-! ## Strings -/

/-- The value of a string with escapes, read after its opening quote, and what follows
its closing quote.  The value so far is `done`, last character first. -/
def takeEscaped? (content : Content) : Nat → List Char → List Char → Option (List Char × List Char)
  | 0, _, _ => none
  | _ + 1, _, [] => none
  | _ + 1, done, '"' :: rest => some (done.reverse, rest)
  | fuel + 1, done, '\r' :: '\n' :: rest => takeEscaped? content fuel ('\n' :: done) rest
  | _ + 1, _, '\r' :: _ => none
  | fuel + 1, done, '\\' :: rest =>
      match takeEscape? content rest with
      | some (value, rest) => takeEscaped? content fuel (value.reverse ++ done) rest
      | none => none
  | fuel + 1, done, c :: rest =>
      if content.allows c then takeEscaped? content fuel (c :: done) rest else none

/-- The value of a raw string, read after its opening quote, and what follows the closing
quote and its `pounds` number signs.  The value so far is `done`, last character first. -/
def takeRaw? (content : Content) (pounds : Nat) (done : List Char) :
    List Char → Option (List Char × List Char)
  | [] => none
  | '\r' :: '\n' :: rest => takeRaw? content pounds ('\n' :: '\r' :: done) rest
  | '\r' :: _ => none
  | c :: rest =>
      if c = '"' ∧ (rest.take pounds) = List.replicate pounds '#' then
        some (done.reverse, rest.drop pounds)
      else if content.allows c then
        takeRaw? content pounds (c :: done) rest
      else
        none

/-- The value of a raw string, read after its letters, and what follows. -/
def takeRawString? (content : Content) (cs : List Char) : Option (List Char × List Char) :=
  let pounds := (cs.takeWhile (· = '#')).length
  match cs.dropWhile (· = '#') with
  | '"' :: rest => if 255 < pounds then none else takeRaw? content pounds [] rest
  | _ => none

/-- The value of the string at the head of a text, the content it may have, and what
follows. -/
def takeString? (cs : List Char) : Option (Content × List Char × List Char) :=
  let escaped (content : Content) (rest : List Char) :=
    (takeEscaped? content (rest.length + 1) [] rest).map fun r => (content, r)
  let raw (content : Content) (rest : List Char) :=
    (takeRawString? content rest).map fun r => (content, r)
  match cs with
  | '"' :: rest => escaped .text rest
  | 'r' :: rest => raw .text rest
  | 'b' :: '"' :: rest => escaped .bytes rest
  | 'b' :: 'r' :: rest => raw .bytes rest
  | 'c' :: '"' :: rest => escaped .zeroFree rest
  | 'c' :: 'r' :: rest => raw .zeroFree rest
  | _ => none

/-- What follows the byte or the character at the head of a text. -/
def skipCharacter? (cs : List Char) : Option (List Char) :=
  let quoted (content : Content) : List Char → Option (List Char)
    | '\\' :: c :: rest =>
        if c = '\n' ∨ c = '\r' then none else (takeEscape? content (c :: rest)).map (·.2)
    | c :: rest => if content.allows c then some rest else none
    | [] => none
  let closed : List Char → Option (List Char)
    | '\x27' :: rest => some rest
    | _ => none
  match cs with
  | 'b' :: '\x27' :: rest => (quoted .bytes rest).bind closed
  | '\x27' :: rest => (quoted .text rest).bind closed
  | _ => none

/-! ## Numbers -/

/-- The mantissa of a floating point number: whether it has a point, whether an exponent
follows, and the text from the letter of the exponent on.  A point that starts a range
or a field access belongs to no number. -/
def skipMantissa? (point : Bool) : List Char → Option (Bool × Bool × List Char)
  | [] => some (point, false, [])
  | '.' :: rest =>
      if point then
        some (true, false, '.' :: rest)
      else
        match rest with
        | [] => some (true, false, [])
        | c :: _ => if c = '.' ∨ isIdentifierStart c then none else skipMantissa? true rest
  | c :: rest =>
      if c.isDigit ∨ c = '_' then skipMantissa? point rest
      else some (point, c = 'e' ∨ c = 'E', c :: rest)

/-- The exponent of a floating point number, read after its letter.  It needs a digit and
has at most one sign. -/
def skipExponent? (signed valued : Bool) : List Char → Option (List Char)
  | [] => if valued then some [] else none
  | c :: rest =>
      if c = '+' ∨ c = '-' then
        if valued then some (c :: rest) else if signed then none else skipExponent? true false rest
      else if c.isDigit then skipExponent? signed true rest
      else if c = '_' then skipExponent? signed valued rest
      else if valued then some (c :: rest) else none

/-- What follows a number and its suffix.  A number does not run on into a word. -/
def skipSuffix? (cs : List Char) : Option (List Char) :=
  let rest := match takeIdentifier? cs with
    | some (_, rest) => rest
    | none => cs
  match rest with
  | [] => some []
  | c :: _ => if isIdentifierContinue c then none else some rest

/-- What follows the floating point number at the head of a text. -/
def skipFloat? (cs : List Char) : Option (List Char) :=
  match cs with
  | [] => none
  | c :: _ =>
      if !c.isDigit then
        none
      else
        match skipMantissa? false cs with
        | none => none
        | some (point, false, rest) => if point then skipSuffix? rest else none
        | some (point, true, rest) =>
            match skipExponent? false false rest.tail with
            | some rest => skipSuffix? rest
            | none => if point then skipSuffix? rest else none

/-- The digits of an integer in a base, and what follows.  Letters above the base are no
digits, while figures above it spoil the number. -/
def skipDigits? (base : Nat) (empty : Bool) : List Char → Option (List Char)
  | [] => if empty then none else some []
  | c :: rest =>
      if c = '_' then
        if empty ∧ base = 10 then none else skipDigits? base empty rest
      else
        match hexDigit? c with
        | none => if empty then none else some (c :: rest)
        | some d =>
            if d < base then skipDigits? base false rest
            else if c.isDigit ∨ empty then none
            else some (c :: rest)

/-- What follows the integer at the head of a text. -/
def skipInteger? (cs : List Char) : Option (List Char) :=
  let digits := match cs with
    | '0' :: 'x' :: rest => skipDigits? 16 true rest
    | '0' :: 'o' :: rest => skipDigits? 8 true rest
    | '0' :: 'b' :: rest => skipDigits? 2 true rest
    | _ => skipDigits? 10 true cs
  digits.bind skipSuffix?

/-- The value of the digits of a number in a base, after the digits before them, whose value
is `value`. -/
def digitsValue? (base value : Nat) : List Char → Option Nat
  | [] => some value
  | c :: rest =>
      if c = '_' then
        digitsValue? base value rest
      else
        match hexDigit? c with
        | some d => if d < base then digitsValue? base (base * value + d) rest else none
        | none => none

/-- The position that an integer without a suffix stands for. -/
def position? (text : String) : Option Nat :=
  let value := match text.toList with
    | '0' :: 'x' :: rest => digitsValue? 16 0 rest
    | '0' :: 'o' :: rest => digitsValue? 8 0 rest
    | '0' :: 'b' :: rest => digitsValue? 2 0 rest
    | [] => none
    | cs => digitsValue? 10 0 cs
  value.bind fun n => if n < 0x100000000 then some n else none

/-! ## All literals -/

/-- The part of a text before its end `rest`, as a string. -/
def consumed (cs rest : List Char) : String := String.ofList (cs.take (cs.length - rest.length))

/-- The rest of a text after the suffix of a literal. -/
def dropSuffix (cs : List Char) : List Char :=
  match takeIdentifier? cs with
  | some (_, rest) => rest
  | none => cs

/-- The literal at the head of a text, and what follows. -/
def takeLiteral? (cs : List Char) : Option (Literal × List Char) :=
  match takeString? cs with
  | some (content, value, rest) =>
      let rest := dropSuffix rest
      let written := consumed cs rest
      some (if content = .text then .string written (String.ofList value) else .other written, rest)
  | none =>
      match skipCharacter? cs with
      | some rest =>
          let rest := dropSuffix rest
          some (.other (consumed cs rest), rest)
      | none =>
          match skipFloat? cs with
          | some rest => some (.float (consumed cs rest), rest)
          | none =>
              match skipInteger? cs with
              | some rest => some (.integer (consumed cs rest), rest)
              | none => none

end EntityBinding.Source
