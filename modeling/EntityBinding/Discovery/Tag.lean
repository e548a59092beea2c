import EntityBinding.Model.Annotations
import EntityBinding.Model.Error
import EntityBinding.Text.Lowercase
import EntityBinding.Text.WhiteSpace

/-!
# Tags

The tag of a field is a list of tokens, each a bare name or a name with a value,
such as `id` or `index:"hash"`.

* One pair of backticks or of double quotes around the tag is dropped.
* A tag of white space alone has no tokens.
* Only the space separates tokens, so a tab may stand inside of one.
* What follows the first colon of a token is its value, in double quotes.  White space
  at the ends of the value is dropped.
* Names are taken in small letters, and no name may come twice.

The first token that breaks a rule decides the error.
-/

namespace EntityBinding.Tag

open Text (lowercase trim isBlank)

/-- A tag without the pair of backticks or of double quotes around it. -/
def body (tag : List Char) : List Char :=
  match tag with
  | first :: second :: rest =>
      if (first = '\x60' ∨ first = '"') ∧ (second :: rest).getLast? = some first then
        (second :: rest).dropLast
      else
        tag
  | _ => tag

/-- The pieces between the spaces of a text.  Two spaces in a row have an empty piece
between them. -/
def pieces : List Char → List (List Char)
  | [] => [[]]
  | c :: rest =>
      if c = ' ' then
        [] :: pieces rest
      else
        match pieces rest with
        | [] => [[c]]
        | p :: ps => (c :: p) :: ps

/-- The tokens of a text: its pieces that are not empty. -/
def tokens (cs : List Char) : List (List Char) := (pieces cs).filter fun p => !p.isEmpty

/-- What stands between double quotes, if a text is so enclosed. -/
def quoted? : List Char → Option (List Char)
  | '"' :: rest => if rest.getLast? = some '"' then some rest.dropLast else none
  | _ => none

/-- The name and the value of a token. -/
def entry (token : List Char) : Except FieldError (String × String) :=
  let name := token.takeWhile (· ≠ ':')
  match token.dropWhile (· ≠ ':') with
  | [] => .ok (String.ofList (lowercase name), "")
  | _ :: raw =>
      match quoted? raw with
      | some value => .ok (String.ofList (lowercase name), String.ofList (trim value))
      | none => .error (.invalidValue (String.ofList raw) (String.ofList name))

/-- The entries of some tokens, added to those of the tokens before. -/
def collect (found : Annotations) : List (List Char) → Except FieldError Annotations
  | [] => .ok found
  | token :: rest =>
      match entry token with
      | .error e => .error e
      | .ok (name, value) =>
          if found.contains name then
            .error (.duplicateName name)
          else
            collect (found.insert name value) rest

/-- The entries of a tag. -/
def parse (tag : String) : Except FieldError Annotations :=
  let inner := body tag.toList
  if isBlank inner then .ok .empty else collect .empty (tokens inner)

/-- The entries of the tag of a field, which has none if the field has no tag. -/
def parseOptional : Option String → Except FieldError Annotations
  | none => .ok .empty
  | some tag => parse tag

end EntityBinding.Tag
