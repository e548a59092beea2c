import EntityBinding.Json

/-!
# Settings

A source file does not say which package it belongs to, nor which attribute of a field
holds its tag.  The settings say so.  They are read from JSON, as an object or as a list
of the two texts, and what is missing takes its default.
-/

namespace EntityBinding

/-- How a source file is read. -/
structure Settings where
  /-- The package that the file belongs to. -/
  package : String
  /-- The attribute of a field that holds its tag. -/
  tagAttribute : String
  deriving Repr, DecidableEq

namespace Settings

/-- The settings that hold if none are given. -/
def default : Settings := ⟨"main", "objectbox"⟩

/-- The text of a field of an object, or `missing` if the object has no such field. -/
def textField? (fields : List (String × Json)) (name missing : String) : Option String :=
  match Json.field? name fields with
  | none => some missing
  | some (.string s) => some s
  | some _ => none

/-- The settings that a JSON value gives.  The value `null` gives the default.  Fields of
an object that are no settings are ignored. -/
def ofJson? : Json → Option Settings
  | .null => some default
  | .object fields => do
      let package ← textField? fields "package" default.package
      let tagAttribute ← textField? fields "tag_attribute" default.tagAttribute
      return ⟨package, tagAttribute⟩
  | .array [] => some default
  | .array [.string package] => some { default with package := package }
  | .array [.string package, .string tagAttribute] => some ⟨package, tagAttribute⟩
  | _ => none

end Settings

end EntityBinding
