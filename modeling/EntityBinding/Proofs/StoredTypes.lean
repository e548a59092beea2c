import EntityBinding.Proofs.AcceptedTypes
import EntityBinding.Source.Lowering

/-!
# The Rust types that can be stored

A type of a source file is rendered under a canonical text, and the text is looked up in
`baseTypes`.  `Ty.Listed` says which Rust types are meant to be found there: the scalar types by
their own names, which may follow a path of a standard crate, and the sequences of `u8`.

A type of no known shape is rendered under the text that it is written as, and that text may be
a canonical one: a user type with the name `int64` is found like an `i64` (`Ty.Coincides`).  So
a type can be stored if and only if it is listed or its text coincides (`baseType?_lower_iff`),
and not all types outside the list are refused (`stored_of_not_listed`).

The proof goes by the characters of the canonical texts.  They hold no space and no mark of a
path, a pointer or a raw name (`not_mem_of_baseType?`), so a path that is written as one is a single
plain name, and the only text with a bracket is that of a sequence of bytes
(`baseType?_array_iff`).
-/

namespace EntityBinding.Source

/-! ## Shapes of types -/

/-- A type without the references, the parentheses and the invisible delimiters around it. -/
def Ty.core : Ty → Ty
  | .reference _ _ elem => elem.core
  | .paren elem => elem.core
  | .group elem => elem.core
  | t => t

/-- The text that a type is written as. -/
def Ty.written (t : Ty) : String := Token.listText t.tokens

/-- The first type among some arguments. -/
def Argument.firstType? : List Argument → Option Ty
  | [] => none
  | .type t :: _ => some t
  | _ :: rest => Argument.firstType? rest

/-- The first type among the arguments of a segment. -/
def Arguments.firstType? : Arguments → Option Ty
  | .angled _ arguments _ => Argument.firstType? arguments
  | .none | .called _ => Option.none

/-- A path that consists of a name alone, or leads to it from a standard crate.  The name is
taken without `r#`, and the first of its type arguments is `argument`. -/
inductive Ty.IsPathTo (name : String) (argument : Option Ty) : Ty → Prop
  | intro {rooted : Bool} {parents : List Segment} {last : Segment} :
      isStandard parents = true → last.name.name = name →
      last.arguments.firstType? = argument → IsPathTo name argument (.path rooted parents last)

/-- A slice, or a vector. -/
inductive Ty.IsSequenceOf : Ty → Ty → Prop
  | slice {elem : Ty} : IsSequenceOf (.slice elem) elem
  | vector {t elem : Ty} : t.IsPathTo "Vec" (some elem) → IsSequenceOf t elem

/-- The Rust names of scalar types, with what they are stored as. -/
def scalarTypes : List (String × StorageType × BufferType) := [
  ("String", .string, .offset),
  ("str", .string, .offset),
  ("i64", .long, .int64),
  ("isize", .long, .int64),
  ("u64", .long, .uint64),
  ("usize", .long, .uint64),
  ("i32", .int, .int32),
  ("char", .int, .int32),
  ("u32", .int, .uint32),
  ("i16", .short, .int16),
  ("u16", .short, .uint16),
  ("i8", .byte, .int8),
  ("u8", .byte, .uint8),
  ("f64", .double, .float64),
  ("f32", .float, .float32),
  ("bool", .bool, .bool)]

/-- The types that are meant to be stored, with what they are stored as. -/
inductive Ty.Listed (t : Ty) : StorageType × BufferType → Prop
  | scalar {name : String} {row : StorageType × BufferType} :
      t.IsPathTo name none → (name, row) ∈ scalarTypes → Listed t row
  | bytes {elem : Ty} : t.IsSequenceOf elem → elem.isByte = true →
      Listed t (.byteVector, .offset)

/-- The types that are written as a canonical text, or are rendered as one since a type inside
of them is. -/
inductive Ty.Coincides (t : Ty) : StorageType × BufferType → Prop
  | name {row : StorageType × BufferType} : baseType? t.written = some row → Coincides t row
  | bytes {elem : Ty} : t.IsSequenceOf elem → elem.core.written = "byte" →
      Coincides t (.byteVector, .offset)
  | array {elem : Ty} {length : List Token} : t = .array elem length →
      Token.listText length = "" → elem.core.written = "byte" →
      Coincides t (.byteVector, .offset)

/-! ## Canonical texts -/

/-- What no canonical text holds: the space, and the marks of a path, of a raw name, of a name
of a package and of a pointer. -/
def marks : List Char := [' ', ':', '#', '.', '*']

theorem not_mem_of_baseType? {text : String} {row : StorageType × BufferType}
    (h : baseType? text = some row) : ∀ c ∈ marks, c ∉ text.toList := by
  have signs : marks.any isCanonicalSign = false := by decide
  intro c mark hc
  exact baseType?_ne_of_sign hc (by simpa using List.any_eq_false.1 signs c mark) row h

theorem baseType?_ne_of_mem {text : String} {c : Char} (mark : c ∈ marks) (hc : c ∈ text.toList)
    (row : StorageType × BufferType) : baseType? text ≠ some row :=
  fun h => not_mem_of_baseType? h c mark hc

/-- No canonical text ends in a bracket. -/
theorem getLast?_ne_of_baseType? {text : String} {row : StorageType × BufferType}
    (h : baseType? text = some row) : text.toList.getLast? ≠ some ']' := by
  have all : ∀ p ∈ baseTypes, p.1.toList.getLast? ≠ some ']' := by decide
  exact all _ (mem_baseTypes h)

/-! ## Written texts -/

theorem mem_listText {ts : List Token} {t : Token} {c : Char} (ht : t ∈ ts)
    (hc : c ∈ t.text.toList) : c ∈ (Token.listText ts).toList := by
  induction ts with
  | nil => cases ht
  | cons u rest ih =>
      cases rest with
      | nil =>
          rw [List.mem_singleton] at ht
          subst ht
          exact hc
      | cons v rest =>
          simp only [Token.listText, String.toList_append, List.mem_append]
          rcases List.mem_cons.1 ht with rfl | ht
          · exact .inl (.inl hc)
          · exact .inr (ih ht)

/-- Between a name and what follows it stands a space. -/
theorem space_mem_listText (id : Ident) {ts : List Token} (nonempty : ts ≠ []) :
    ' ' ∈ (Token.listText (.ident id :: ts)).toList := by
  cases ts with
  | nil => exact absurd rfl nonempty
  | cons t rest => simp [Token.listText, Token.isJoined]

theorem getLast?_bracket (ts : List Token) :
    (Token.listText [.group .bracket ts]).toList.getLast? = some ']' := by
  simp [Token.listText, Token.text, List.getLast?_cons]

theorem firstType?_of_tokens {arguments : Arguments} (bare : arguments.tokens = []) :
    arguments.firstType? = none := by
  cases arguments with
  | none => rfl
  | angled turbofish arguments comma =>
      simp [Arguments.tokens, Token.operator, Token.operatorTrees] at bare
  | called tokens => rfl

/-- A path that is written without a space, a colon and a raw name is a plain name. -/
theorem plain_of_written {rooted : Bool} {parents : List Segment} {last : Segment}
    (unmarked : ∀ c ∈ marks, c ∉ (Token.listText (Ty.path rooted parents last).tokens).toList) :
    rooted = false ∧ parents = [] ∧ last.name.raw = false ∧ last.arguments.tokens = [] := by
  have noColon : Token.punct ':' false ∉ (Ty.path rooted parents last).tokens := by
    intro colon
    exact unmarked ':' (by decide) (mem_listText colon (by simp [Token.text]))
  have unrooted : rooted = false := by
    cases rooted with
    | false => rfl
    | true => exact absurd (by simp [Ty.tokens, Token.operator, Token.operatorTrees]) noColon
  have alone : parents = [] := by
    cases parents with
    | nil => rfl
    | cons s rest =>
        refine absurd ?_ noColon
        simp [Ty.tokens, Segment.listTokens, Token.operator, Token.operatorTrees]
  subst unrooted alone
  obtain ⟨⟨raw, name⟩, arguments⟩ := last
  have bare : arguments.tokens = [] := by
    cases found : arguments.tokens with
    | nil => rfl
    | cons t rest =>
        refine absurd (space_mem_listText ⟨raw, name⟩ (List.cons_ne_nil t rest)) ?_
        rw [← found]
        exact unmarked ' ' (by decide)
  refine ⟨rfl, rfl, ?_, bare⟩
  cases raw with
  | false => rfl
  | true =>
      refine absurd ?_ (unmarked '#' (by decide))
      simp [Ty.tokens, Segment.listTokens, Segment.tokens, bare, Token.listText, Token.text,
        Ident.text]

/-! ## Rendered types -/

theorem Argument.lowerFirst_eq (arguments : List Argument) :
    Argument.lowerFirst arguments =
      (Argument.firstType? arguments).map fun t => (t.isByte, t.lower) := by
  induction arguments with
  | nil => rfl
  | cons a rest ih =>
      cases a with
      | type t => rfl
      | lifetime name => exact ih
      | constant tokens => exact ih
      | binding tokens => exact ih

theorem Arguments.lowerFirst_eq (arguments : Arguments) :
    arguments.lowerFirst = arguments.firstType?.map fun t => (t.isByte, t.lower) := by
  cases arguments with
  | none => rfl
  | angled turbofish arguments comma => exact Argument.lowerFirst_eq arguments
  | called tokens => rfl

/-- What stands around a type does not change what it is rendered as. -/
theorem lower_core : ∀ t : Ty, t.core.lower = t.lower
  | .reference _ _ elem => lower_core elem
  | .paren elem => lower_core elem
  | .group elem => lower_core elem
  | .path _ _ _ | .pointer _ _ | .slice _ | .array _ _ | .bound _ | .other _ => rfl

/-- What a path is rendered as. -/
inductive Ty.PathRenders (t : Ty) : TypeExpr → Prop
  | sequence {elem : Ty} : t.IsPathTo "Vec" (some elem) →
      PathRenders t (sequence elem.isByte elem.lower)
  | pointer (elem : TypeExpr) : PathRenders t (.pointer elem)
  | scalar {name canonical : String} : t.IsPathTo name none →
      primitives.lookup name = some canonical → PathRenders t (.ident canonical)
  | selector (package name : String) : PathRenders t (.selector package name)
  | kept : PathRenders t t.verbatim

theorem lowerPath_of_bare {rooted : Bool} {parents : List Segment} {last : Segment}
    (standard : isStandard parents = true) (bare : last.arguments.firstType? = none) :
    lowerPath rooted parents last =
      match primitives.lookup last.name.name with
      | some canonical => .ident canonical
      | none => (Ty.path rooted parents last).verbatim := by
  obtain ⟨name, arguments⟩ := last
  cases found : primitives.lookup name.name <;>
    simp only [lowerPath, Arguments.lowerFirst_eq, bare, standard, if_true, Option.map_none, found]

theorem lowerPath_of_vector {rooted : Bool} {parents : List Segment} {last : Segment} {elem : Ty}
    (standard : isStandard parents = true) (vector : last.name.name = "Vec")
    (first : last.arguments.firstType? = some elem) :
    lowerPath rooted parents last = sequence elem.isByte elem.lower := by
  obtain ⟨⟨raw, name⟩, arguments⟩ := last
  subst vector
  simp only [lowerPath, Arguments.lowerFirst_eq, first, standard, if_true, Option.map_some]

theorem pathRenders_lowerPath (rooted : Bool) (parents : List Segment) (last : Segment) :
    (Ty.path rooted parents last).PathRenders (lowerPath rooted parents last) := by
  cases standard : isStandard parents with
  | true =>
      cases first : last.arguments.firstType? with
      | none =>
          rw [lowerPath_of_bare standard first]
          cases found : primitives.lookup last.name.name with
          | some canonical => exact .scalar ⟨standard, rfl, first⟩ found
          | none => exact .kept
      | some elem =>
          by_cases vector : last.name.name = "Vec"
          · rw [lowerPath_of_vector standard vector first]
            exact .sequence ⟨standard, vector, first⟩
          · obtain ⟨name, arguments⟩ := last
            simp only [lowerPath, Arguments.lowerFirst_eq, first, standard, if_true,
              Option.map_some]
            split
            next isVector _ => exact absurd isVector vector
            next => exact .pointer _
            next => exact .pointer _
            next => exact .kept
            next impossible => cases impossible
  | false =>
      obtain ⟨name, arguments⟩ := last
      simp only [lowerPath, standard, Bool.false_eq_true, if_false]
      split
      next => exact .selector _ _
      next => exact .kept

theorem lower_of_isPathTo {name : String} {t : Ty} (path : t.IsPathTo name none) :
    t.lower =
      match primitives.lookup name with
      | some canonical => .ident canonical
      | none => t.verbatim := by
  obtain ⟨standard, rfl, bare⟩ := path
  rw [Ty.lower, lowerPath_of_bare standard bare]

theorem lower_of_isSequenceOf {t elem : Ty} (sequenceOf : t.IsSequenceOf elem) :
    t.lower = sequence elem.isByte elem.lower := by
  cases sequenceOf with
  | slice => rfl
  | vector path =>
      obtain ⟨standard, vector, first⟩ := path
      exact lowerPath_of_vector standard vector first

theorem baseType?_sequence_iff {elem : Ty} {row : StorageType × BufferType} :
    baseType? (sequence elem.isByte elem.lower).text = some row ↔
      (elem.isByte = true ∨ elem.lower.text = "byte") ∧ row = (.byteVector, .offset) := by
  rw [sequence, TypeExpr.slice, baseType?_array_iff]
  cases elem.isByte with
  | true => simp [TypeExpr.text]
  | false => simp

/-! ## Listed types -/

theorem lookup_of_mem_scalarTypes {name : String} {row : StorageType × BufferType}
    (h : (name, row) ∈ scalarTypes) :
    ∃ canonical, primitives.lookup name = some canonical ∧ baseType? canonical = some row := by
  have all : ∀ p ∈ scalarTypes, (primitives.lookup p.1).bind baseType? = some p.2 := by decide
  exact Option.bind_eq_some_iff.1 (all _ h)

theorem mem_scalarTypes {name canonical : String} {row : StorageType × BufferType}
    (found : primitives.lookup name = some canonical) (h : baseType? canonical = some row) :
    (name, row) ∈ scalarTypes := by
  have all : ∀ p ∈ primitives, ∀ row ∈ baseType? p.2, (p.1, row) ∈ scalarTypes := by decide
  obtain ⟨before, after, rows, -⟩ := List.lookup_eq_some_iff.1 found
  exact all (name, canonical) (by simp [rows]) row h

/-- Listed types are stored. -/
theorem Ty.Listed.stored {t : Ty} {row : StorageType × BufferType} (listed : t.Listed row) :
    baseType? t.lower.text = some row := by
  cases listed with
  | scalar path scalar =>
      obtain ⟨canonical, found, stored⟩ := lookup_of_mem_scalarTypes scalar
      rw [lower_of_isPathTo path, found]
      exact stored
  | bytes sequenceOf byte =>
      rw [lower_of_isSequenceOf sequenceOf, baseType?_sequence_iff]
      exact ⟨.inl byte, rfl⟩

/-! ## Types whose text coincides -/

/-- A type that is written as a canonical text is stored as the text says. -/
theorem stored_of_written {row : StorageType × BufferType} :
    ∀ t : Ty, baseType? t.core.written = some row → baseType? t.lower.text = some row
  | .reference _ _ elem, h => stored_of_written elem h
  | .paren elem, h => stored_of_written elem h
  | .group elem, h => stored_of_written elem h
  | .bound _, h => h
  | .other _, h => h
  | .pointer mutable elem, h => by
      have star : Token.punct '*' false ∈ (Ty.pointer mutable elem).tokens := by
        simp [Ty.tokens, Token.operator, Token.operatorTrees]
      exact absurd h (baseType?_ne_of_mem (by decide) (mem_listText star List.mem_cons_self) row)
  | .slice elem, h => by
      refine absurd ?_ (getLast?_ne_of_baseType? h)
      exact getLast?_bracket _
  | .array elem length, h => by
      refine absurd ?_ (getLast?_ne_of_baseType? h)
      exact getLast?_bracket _
  | .path rooted parents last, h => by
      obtain ⟨rfl, rfl, plain, bare⟩ := plain_of_written (not_mem_of_baseType? h)
      obtain ⟨⟨raw, name⟩, arguments⟩ := last
      dsimp only at plain bare
      subst plain
      have written : (Ty.path false [] ⟨⟨false, name⟩, arguments⟩).written = name := by
        simp [Ty.written, Ty.tokens, Segment.listTokens, Segment.tokens, bare, Token.listText,
          Token.text, Ident.text]
      have path : (Ty.path false [] ⟨⟨false, name⟩, arguments⟩).IsPathTo name none :=
        ⟨rfl, rfl, firstType?_of_tokens bare⟩
      rw [lower_of_isPathTo path]
      cases found : primitives.lookup name with
      | none => exact h
      | some canonical =>
          -- A Rust name that is a canonical text as well has one row under both.
          have all : ∀ p ∈ baseTypes, ∀ c ∈ primitives.lookup p.1, baseType? c = some p.2 := by
            decide
          have named : baseType? name = some row := written ▸ h
          exact all _ (mem_baseTypes named) canonical found

/-- A type that is stored is listed, or written as it is rendered, or a sequence of a type that
is rendered under the text of a byte. -/
theorem cases_of_stored {row : StorageType × BufferType} :
    ∀ t : Ty, baseType? t.lower.text = some row →
      t.core.Listed row ∨ baseType? t.core.written = some row ∨
        (row = (.byteVector, .offset) ∧ ∃ elem : Ty, elem.lower.text = "byte" ∧
          (t.core.IsSequenceOf elem ∨
            ∃ length, t.core = .array elem length ∧ Token.listText length = ""))
  | .reference _ _ elem, h => cases_of_stored elem h
  | .paren elem, h => cases_of_stored elem h
  | .group elem, h => cases_of_stored elem h
  | .bound _, h => .inr (.inl h)
  | .other _, h => .inr (.inl h)
  | .pointer mutable elem, h => by
      have star : '*' ∈ (TypeExpr.pointer elem.lower).text.toList := by simp [TypeExpr.text]
      exact absurd h (baseType?_ne_of_mem (by decide) star row)
  | .slice elem, h => by
      obtain ⟨byte | byte, rfl⟩ := baseType?_sequence_iff.1 h
      · exact .inl (.bytes .slice byte)
      · exact .inr (.inr ⟨rfl, elem, byte, .inl .slice⟩)
  | .array elem length, h => by
      obtain ⟨empty, byte, rfl⟩ := baseType?_array_iff.1 h
      exact .inr (.inr ⟨rfl, elem, byte, .inr ⟨length, rfl, empty⟩⟩)
  | .path rooted parents last, h => by
      have renders := pathRenders_lowerPath rooted parents last
      rw [Ty.lower] at h
      generalize lowerPath rooted parents last = type at h renders
      cases renders with
      | @sequence elem path =>
          obtain ⟨byte | byte, rfl⟩ := baseType?_sequence_iff.1 h
          · exact .inl (.bytes (.vector path) byte)
          · exact .inr (.inr ⟨rfl, elem, byte, .inl (.vector path)⟩)
      | pointer elem =>
          have star : '*' ∈ (TypeExpr.pointer elem).text.toList := by simp [TypeExpr.text]
          exact absurd h (baseType?_ne_of_mem (by decide) star row)
      | scalar path found => exact .inl (.scalar path (mem_scalarTypes found h))
      | selector package name =>
          have dot : '.' ∈ (TypeExpr.selector package name).text.toList := by
            simp [TypeExpr.text]
          exact absurd h (baseType?_ne_of_mem (by decide) dot row)
      | kept => exact .inr (.inl h)

theorem eq_byte_of_baseType? {text : String} (h : baseType? text = some (.byte, .byte)) :
    text = "byte" := by
  have all : ∀ p ∈ baseTypes, p.2 = (.byte, .byte) → p.1 = "byte" := by decide
  exact all _ (mem_baseTypes h) rfl

/-- No Rust type is rendered under the text of a byte, but one that is written so. -/
theorem lower_text_eq_byte_iff {t : Ty} : t.lower.text = "byte" ↔ t.core.written = "byte" := by
  constructor
  · intro rendered
    have stored : baseType? t.lower.text = some (.byte, .byte) := by rw [rendered]; rfl
    rcases cases_of_stored t stored with listed | written | ⟨row, -⟩
    · cases listed with
      | scalar path scalar =>
          have none : ∀ p ∈ scalarTypes, p.2 ≠ (.byte, .byte) := by decide
          exact absurd rfl (none _ scalar)
    · exact eq_byte_of_baseType? written
    · cases row
  · intro written
    refine eq_byte_of_baseType? (stored_of_written t ?_)
    rw [written]
    rfl

/-- Types whose text coincides are stored as well. -/
theorem stored_of_coincides {t : Ty} {row : StorageType × BufferType}
    (coincides : t.core.Coincides row) : baseType? t.lower.text = some row := by
  cases coincides with
  | name written => exact stored_of_written t written
  | bytes sequenceOf byte =>
      rw [← lower_core, lower_of_isSequenceOf sequenceOf, baseType?_sequence_iff]
      exact ⟨.inr (lower_text_eq_byte_iff.2 byte), rfl⟩
  | array core empty byte =>
      rw [← lower_core, core, Ty.lower, baseType?_array_iff]
      exact ⟨empty, lower_text_eq_byte_iff.2 byte, rfl⟩

/-! ## Stored types -/

theorem baseType?_lower_iff (t : Ty) (row : StorageType × BufferType) :
    baseType? t.lower.text = some row ↔ t.core.Listed row ∨ t.core.Coincides row := by
  constructor
  · intro stored
    rcases cases_of_stored t stored with listed | written | ⟨rfl, elem, byte, sequenceOf | array⟩
    · exact .inl listed
    · exact .inr (.name written)
    · exact .inr (.bytes sequenceOf (lower_text_eq_byte_iff.1 byte))
    · obtain ⟨length, core, empty⟩ := array
      exact .inr (.array core empty (lower_text_eq_byte_iff.1 byte))
  · rintro (listed | coincides)
    · rw [← lower_core]
      exact listed.stored
    · exact stored_of_coincides coincides

/-- Which Rust types can be stored.  A type has a storage type and a buffer type if and only if
it is listed or coincides with one that has them, and any other type is refused as unknown,
whatever its tag says. -/
theorem stored_iff_listed_or_coincides (t : Ty) :
    (∀ row, baseType? t.lower.text = some row ↔ t.core.Listed row ∨ t.core.Coincides row) ∧
      ∀ a, resolveType t.lower a = .error (.unknownType t.lower.text) ↔
        ∀ row, ¬t.core.Listed row ∧ ¬t.core.Coincides row := by
  refine ⟨baseType?_lower_iff t, fun a => ?_⟩
  rw [resolveType_eq_unknownType_iff, Option.eq_none_iff_forall_ne_some]
  simp only [ne_eq, baseType?_lower_iff, not_or]

/-- A user type with the name `int64` is stored like an `i64`, though no list has it. -/
theorem stored_of_not_listed :
    baseType? (Ty.path false [] ⟨.plain "int64", .none⟩).lower.text = some (.long, .int64) ∧
      ∀ row, ¬(Ty.path false [] ⟨.plain "int64", .none⟩).core.Listed row := by
  refine ⟨by decide +kernel, ?_⟩
  rintro row (⟨⟨standard, rfl, bare⟩, scalar⟩ | ⟨sequenceOf, byte⟩)
  · have all : ∀ p ∈ scalarTypes, p.1 ≠ "int64" := by decide
    exact all _ scalar rfl
  · cases sequenceOf with
    | vector path =>
        obtain ⟨standard, vector, first⟩ := path
        cases first

end EntityBinding.Source
