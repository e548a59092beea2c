import EntityBinding.Proofs.StoredTypes

/-!
# Other spellings of a type

A part of a type can be spelled with more than it needs.  Parentheses around it say nothing, and
the name of a primitive type may be reached by a path from a standard crate.  `Ty.Respelled`
relates a type to those in which one part, at any depth, is spelled so.

Such a spelling is meant to change nothing.  It changes nothing of how a part is rendered, but a
sequence of bytes is known by its element before that is rendered, and the element has to be
written `u8` with nothing around it.  So a type is stored as before, except that a sequence of
bytes is lost if the part is its `u8` (`stored_respelled_iff`).  This happens to `Vec<(u8)>`
(`stored_respelled_vector`).
-/

namespace EntityBinding.Source

/-- What a type is stored as, if it can be stored. -/
def Ty.storedAs? (t : Ty) : Option (StorageType × BufferType) := baseType? t.lower.text

/-- The names of the primitive types: the two integers that are not stored, and those that are. -/
def primitiveNames : List String := "i128" :: "u128" :: primitives.map Prod.fst

/-- The second type is the first one with one part spelled with more than it needs. -/
inductive Ty.Respelled : Ty → Ty → Prop
  /-- A part stands in parentheses. -/
  | parentheses (t : Ty) : Respelled t (.paren t)
  /-- A primitive type is named by a path from a standard crate. -/
  | standardPath {name : String} {rooted : Bool} {first : Segment} {rest : List Segment} :
      name ∈ primitiveNames → isStandard (first :: rest) = true →
      Respelled (.path false [] ⟨.plain name, .none⟩)
        (.path rooted (first :: rest) ⟨.plain name, .none⟩)
  /-- The part is in the referent. -/
  | reference {lifetime : Option Ident} {mutable : Bool} {t t' : Ty} : Respelled t t' →
      Respelled (.reference lifetime mutable t) (.reference lifetime mutable t')
  /-- The part is in the pointee. -/
  | pointer {mutable : Bool} {t t' : Ty} : Respelled t t' →
      Respelled (.pointer mutable t) (.pointer mutable t')
  /-- The part is in the element of a slice. -/
  | slice {t t' : Ty} : Respelled t t' → Respelled (.slice t) (.slice t')
  /-- The part is in the element of an array. -/
  | array {length : List Token} {t t' : Ty} : Respelled t t' →
      Respelled (.array t length) (.array t' length)
  /-- The part is in parentheses already. -/
  | paren {t t' : Ty} : Respelled t t' → Respelled (.paren t) (.paren t')
  /-- The part is in invisible delimiters. -/
  | group {t t' : Ty} : Respelled t t' → Respelled (.group t) (.group t')
  /-- The part is in a type argument. -/
  | argument {rooted turbofish comma : Bool} {parents : List Segment} {name : Ident}
      {before after : List Argument} {t t' : Ty} : Respelled t t' →
      Respelled (.path rooted parents ⟨name, .angled turbofish (before ++ .type t :: after) comma⟩)
        (.path rooted parents ⟨name, .angled turbofish (before ++ .type t' :: after) comma⟩)

/-- A sequence of `u8`, and the same sequence with its `u8` spelled in another way. -/
def Ty.LosesBytes (t t' : Ty) : Prop :=
  ∃ elem elem', t.core.IsSequenceOf elem ∧ elem.isByte = true ∧ t'.core.IsSequenceOf elem' ∧
    elem.Respelled elem'

/-! ## Bytes -/

theorem Ty.eq_of_isByte {t : Ty} (byte : t.isByte = true) :
    t = .path false [] ⟨.plain "u8", .none⟩ := by
  unfold isByte at byte
  split at byte
  next name =>
    obtain ⟨raw, name⟩ := name
    have text : (Ident.mk raw name).text = "u8" := by simpa using byte
    cases raw with
    | false =>
        obtain rfl : name = "u8" := text
        rfl
    | true =>
        have start := congrArg (·.toList.head?) text
        simp [Ident.text] at start
  next => cases byte

/-- A byte is an integer of its own, and no `byte`. -/
theorem Ty.storedAs?_of_isByte {t : Ty} (byte : t.isByte = true) :
    t.storedAs? = some (.byte, .uint8) := by
  rw [eq_of_isByte byte]
  decide +kernel

/-- What is spelled with more than it needs is not `u8` with nothing around it. -/
theorem Ty.Respelled.isByte {t t' : Ty} (respelled : t.Respelled t') : t'.isByte = false := by
  rw [Bool.eq_false_iff]
  intro byte
  have bare := eq_of_isByte byte
  cases respelled with
  | standardPath => cases bare
  | argument => cases bare
  | _ => cases bare

/-! ## Sequences -/

theorem Ty.IsSequenceOf.core {t elem : Ty} (sequence : t.IsSequenceOf elem) : t.core = t := by
  cases sequence with
  | slice => rfl
  | vector path =>
      cases path
      rfl

theorem Ty.storedAs?_core (t : Ty) : t.core.storedAs? = t.storedAs? := by
  rw [storedAs?, lower_core, storedAs?]

theorem Ty.text_eq_byte_iff_storedAs? {t : Ty} :
    t.lower.text = "byte" ↔ t.storedAs? = some (.byte, .byte) := by
  refine ⟨fun text => ?_, eq_byte_of_baseType?⟩
  rw [storedAs?, text]
  rfl

theorem Ty.IsSequenceOf.storedAs?_iff {t elem : Ty} (sequence : t.IsSequenceOf elem)
    {row : StorageType × BufferType} :
    t.storedAs? = some row ↔
      (elem.isByte = true ∨ elem.storedAs? = some (.byte, .byte)) ∧
        row = (.byteVector, .offset) := by
  rw [storedAs?, lower_of_isSequenceOf sequence, baseType?_sequence_iff,
    text_eq_byte_iff_storedAs?]

/-- Of the paths with a type argument only vectors are stored. -/
theorem Ty.storedAs?_of_not_vector {rooted : Bool} {parents : List Segment} {last : Segment}
    {elem : Ty} (first : last.arguments.firstType? = some elem)
    (other : ¬(isStandard parents = true ∧ last.name.name = "Vec")) :
    (Ty.path rooted parents last).storedAs? = none := by
  have noSequence : ∀ elem', ¬(Ty.path rooted parents last).IsSequenceOf elem' := by
    rintro elem' (_ | ⟨standard, vector, -⟩)
    exact other ⟨standard, vector⟩
  rw [Option.eq_none_iff_forall_ne_some]
  intro row stored
  rcases cases_of_stored _ stored with
    listed | written | ⟨-, elem', -, sequence | ⟨length, array, -⟩⟩
  · cases listed with
    | scalar path scalar =>
        obtain ⟨-, -, bare⟩ := path
        rw [first] at bare
        cases bare
    | bytes sequence byte => exact noSequence _ sequence
  · obtain ⟨-, -, -, bare⟩ := plain_of_written (not_mem_of_baseType? written)
    rw [firstType?_of_tokens bare] at first
    cases first
  · exact noSequence elem' sequence
  · cases array

theorem Argument.firstType?_append_type (t : Ty) (after : List Argument) :
    ∀ before : List Argument, Argument.firstType? (before ++ .type t :: after) =
      some ((Argument.firstType? before).getD t)
  | [] => rfl
  | .type _ :: _ => rfl
  | .lifetime _ :: rest => firstType?_append_type t after rest
  | .constant _ :: rest => firstType?_append_type t after rest
  | .binding _ :: rest => firstType?_append_type t after rest

/-! ## Respelled types -/

/-- A type is stored as before, or it was a sequence of `u8` and is not stored any more. -/
def Ty.KeepsOrLoses (t t' : Ty) : Prop :=
  t'.storedAs? = t.storedAs? ∨
    t.LosesBytes t' ∧ t.storedAs? = some (.byteVector, .offset) ∧ t'.storedAs? = none

/-- A respelled element is a `byte` if it was one before. -/
theorem Ty.KeepsOrLoses.byte_iff {t t' : Ty} (h : t.KeepsOrLoses t') :
    t'.storedAs? = some (.byte, .byte) ↔ t.storedAs? = some (.byte, .byte) := by
  rcases h with same | ⟨-, stored, lost⟩
  · rw [same]
  · rw [stored, lost]
    decide

/-- A sequence of `u8` is lost if its `u8` is not bare any more. -/
theorem Ty.IsSequenceOf.lost {t t' elem elem' : Ty} (sequence : t.IsSequenceOf elem)
    (byte : elem.isByte = true) (sequence' : t'.IsSequenceOf elem')
    (respelled : elem.Respelled elem') (ih : elem.KeepsOrLoses elem') :
    t.storedAs? = some (.byteVector, .offset) ∧ t'.storedAs? = none := by
  refine ⟨sequence.storedAs?_iff.2 ⟨.inl byte, rfl⟩, ?_⟩
  rw [Option.eq_none_iff_forall_ne_some]
  intro row stored'
  rcases (sequence'.storedAs?_iff.1 stored').1 with bare | named
  · rw [respelled.isByte] at bare
    cases bare
  · rw [ih.byte_iff, storedAs?_of_isByte byte] at named
    cases named

/-- A sequence with a respelled element loses its bytes if it has any. -/
theorem Ty.IsSequenceOf.keepsOrLoses {t t' elem elem' : Ty} (sequence : t.IsSequenceOf elem)
    (sequence' : t'.IsSequenceOf elem') (respelled : elem.Respelled elem')
    (ih : elem.KeepsOrLoses elem') : t.KeepsOrLoses t' := by
  cases byte : elem.isByte with
  | true =>
      refine .inr ⟨⟨elem, elem', ?_, byte, ?_, respelled⟩,
        sequence.lost byte sequence' respelled ih⟩
      · rwa [sequence.core]
      · rwa [sequence'.core]
  | false =>
      refine .inl (Option.ext fun row => ?_)
      rw [sequence.storedAs?_iff, sequence'.storedAs?_iff, byte, respelled.isByte, ih.byte_iff]

theorem Ty.Respelled.keepsOrLoses {t t' : Ty} (respelled : t.Respelled t') :
    t.KeepsOrLoses t' := by
  induction respelled with
  | parentheses t => exact .inl rfl
  | @standardPath name rooted first rest primitive standard =>
      have path : (Ty.path false [] ⟨.plain name, .none⟩).IsPathTo name none := ⟨rfl, rfl, rfl⟩
      have path' : (Ty.path rooted (first :: rest) ⟨.plain name, .none⟩).IsPathTo name none :=
        ⟨standard, rfl, rfl⟩
      left
      rw [storedAs?, storedAs?, lower_of_isPathTo path, lower_of_isPathTo path']
      cases found : primitives.lookup name with
      | some canonical => rfl
      | none =>
          -- Neither of the two texts of an integer that is not stored is canonical.
          have unstored : ∀ name ∈ primitiveNames, primitives.lookup name = none →
              baseType? (Ty.path false [] ⟨.plain name, .none⟩).verbatim.text = none := by
            decide +kernel
          have colon : Token.punct ':' false ∈
              (Ty.path rooted (first :: rest) ⟨.plain name, .none⟩).tokens := by
            simp [Ty.tokens, Segment.listTokens, Token.operator, Token.operatorTrees]
          refine Eq.trans ?_ (unstored name primitive found).symm
          rw [Option.eq_none_iff_forall_ne_some]
          exact baseType?_ne_of_mem (c := ':') (by decide)
            (mem_listText colon (by simp [Token.text]))
  | reference _ ih => exact ih
  | paren _ ih => exact ih
  | group _ ih => exact ih
  | @pointer mutable t t' _ ih =>
      have unstored : ∀ t : Ty, (Ty.pointer mutable t).storedAs? = none := by
        intro t
        rw [Option.eq_none_iff_forall_ne_some]
        exact baseType?_ne_of_mem (c := '*') (by decide) (by simp [Ty.lower, TypeExpr.text])
      exact .inl ((unstored t').trans (unstored t).symm)
  | slice respelled ih => exact IsSequenceOf.slice.keepsOrLoses .slice respelled ih
  | array _ ih =>
      refine .inl (Option.ext fun row => ?_)
      rw [storedAs?, storedAs?, Ty.lower, Ty.lower, baseType?_array_iff, baseType?_array_iff,
        text_eq_byte_iff_storedAs?, text_eq_byte_iff_storedAs?, ih.byte_iff]
  | @argument rooted turbofish comma parents name before after t t' respelled ih =>
      have first := Argument.firstType?_append_type t after before
      have first' := Argument.firstType?_append_type t' after before
      by_cases vector : isStandard parents = true ∧ name.name = "Vec"
      · have sequence : (Ty.path rooted parents ⟨name,
            .angled turbofish (before ++ .type t :: after) comma⟩).IsSequenceOf
              ((Argument.firstType? before).getD t) :=
          .vector ⟨vector.1, vector.2, first⟩
        have sequence' : (Ty.path rooted parents ⟨name,
            .angled turbofish (before ++ .type t' :: after) comma⟩).IsSequenceOf
              ((Argument.firstType? before).getD t') :=
          .vector ⟨vector.1, vector.2, first'⟩
        cases earlier : Argument.firstType? before with
        | none =>
            rw [earlier] at sequence sequence'
            exact sequence.keepsOrLoses sequence' respelled ih
        | some elem =>
            rw [earlier] at sequence sequence'
            refine .inl (Option.ext fun row => ?_)
            rw [sequence.storedAs?_iff, sequence'.storedAs?_iff]
            rfl
      · have unstored : (Ty.path rooted parents ⟨name,
            .angled turbofish (before ++ .type t :: after) comma⟩).storedAs? = none :=
          storedAs?_of_not_vector first vector
        have unstored' : (Ty.path rooted parents ⟨name,
            .angled turbofish (before ++ .type t' :: after) comma⟩).storedAs? = none :=
          storedAs?_of_not_vector first' vector
        exact .inl (unstored'.trans unstored.symm)

/-- When another spelling of a part changes what a type is stored as.  It changes nothing, except
if the type is a sequence of `u8` and the part is its `u8`.  Then the sequence of bytes is not
stored any more. -/
theorem stored_respelled_iff {t t' : Ty} (respelled : t.Respelled t') :
    (t'.storedAs? = t.storedAs? ↔ ¬t.LosesBytes t') ∧
      (t.LosesBytes t' → t.storedAs? = some (.byteVector, .offset) ∧ t'.storedAs? = none) := by
  have lost : t.LosesBytes t' → t.storedAs? = some (.byteVector, .offset) ∧
      t'.storedAs? = none := by
    rintro ⟨elem, elem', sequence, byte, sequence', respelled'⟩
    have cores := sequence.lost byte sequence' respelled' respelled'.keepsOrLoses
    rwa [Ty.storedAs?_core, Ty.storedAs?_core] at cores
  refine ⟨⟨fun same loses => ?_, fun keeps => ?_⟩, lost⟩
  · rw [(lost loses).1, (lost loses).2] at same
    cases same
  · rcases respelled.keepsOrLoses with same | ⟨loses, -⟩
    · exact same
    · exact absurd loses keeps

/-- The reference `&(core::primitive::u64)` is stored as `&(u64)` is. -/
theorem stored_respelled_reference :
    let u64 (parents : List Segment) : Ty :=
      .reference none false (.paren (.path false parents ⟨.plain "u64", .none⟩))
    let primitive : List Segment := [⟨.plain "core", .none⟩, ⟨.plain "primitive", .none⟩]
    (u64 []).Respelled (u64 primitive) ∧ ¬(u64 []).LosesBytes (u64 primitive) ∧
      (u64 []).storedAs? = some (.long, .uint64) ∧
      (u64 primitive).storedAs? = some (.long, .uint64) := by
  intro u64 primitive
  have respelled : (u64 []).Respelled (u64 primitive) :=
    .reference (.paren (.standardPath (by decide) (by decide)))
  have keeps : ¬(u64 []).LosesBytes (u64 primitive) := by
    rintro ⟨elem, -, sequence, -⟩
    cases sequence with
    | vector path =>
        obtain ⟨-, vector, -⟩ := path
        exact absurd vector (by decide)
  have stored : (u64 []).storedAs? = some (.long, .uint64) := by decide +kernel
  exact ⟨respelled, keeps, stored, ((stored_respelled_iff respelled).1.2 keeps).trans stored⟩

/-- The part is in the only type argument. -/
theorem Ty.Respelled.onlyArgument {parents : List Segment} {name : Ident} {t t' : Ty}
    (respelled : t.Respelled t') :
    (Ty.path false parents ⟨name, .angled false [.type t] false⟩).Respelled
      (.path false parents ⟨name, .angled false [.type t'] false⟩) :=
  @argument false false false parents name [] [] t t' respelled

/-- The type `Vec<elem>`. -/
def vecOf (elem : Ty) : Ty := .path false [] ⟨.plain "Vec", .angled false [.type elem] false⟩

/-- The type `u8` with nothing around it. -/
def bareByte : Ty := .path false [] ⟨.plain "u8", .none⟩

/-- A `Vec<u8>` is a sequence of bytes, and a `Vec<(u8)>` cannot be stored. -/
theorem stored_respelled_vector :
    (vecOf bareByte).Respelled (vecOf (.paren bareByte)) ∧
      (vecOf bareByte).storedAs? = some (.byteVector, .offset) ∧
      (vecOf (.paren bareByte)).storedAs? = none :=
  ⟨.onlyArgument (.parentheses bareByte), by decide +kernel, by decide +kernel⟩

end EntityBinding.Source
