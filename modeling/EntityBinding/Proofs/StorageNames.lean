import EntityBinding.Proofs.LetterCase
import EntityBinding.Proofs.Validity

/-!
# Storage names that collide

The storage engine takes its names in small letters, and a struct with two fields of the same
storage name in small letters cannot be built, wherever the fields stand
(`not_built_of_lowercase_eq`).

Names that differ in case alone are meant to collide.  They do so, except where the last letter
of a word is a `Σ` in one of them and a `σ` in the other, since small letters tell the two apart
there (`storageNames_collide_iff`).  So a struct with the fields `ΟΔΟΣ` and `οδοσ` can be built
(`roadFields_built`).
-/

namespace EntityBinding

open Text (lowercaseString AgreeByLetter SigmaAgainst)

/-- The field at `i` is stored, and its storage name is `s`. -/
def StoredAs (fields : List FieldGroup) (i : Nat) (s : String) : Prop :=
  ∃ f name a, fields[i]? = some f ∧ f.stored? = some (name, a) ∧ storageNameOf name a = s

/-! ## Fields that collide -/

/-- Properties that are apart have different storage names in small letters. -/
theorem ne_of_storedAs {fields : List FieldGroup} {i j : Nat} {s t : String}
    (sound : ∀ f ∈ fields, f.Sound)
    (apart : (fields.filterMap FieldGroup.property?).Pairwise Property.Apart) (before : i < j)
    (first : StoredAs fields i s) (second : StoredAs fields j t) :
    lowercaseString s ≠ lowercaseString t := by
  -- A stored field is a property under its storage name.
  have property : ∀ {k : Nat} {r : String}, StoredAs fields k r →
      ∃ f p, fields[k]? = some f ∧ f.property? = some p ∧ p.storageName = r := by
    rintro k r ⟨f, name, a, at_k, stored, rfl⟩
    have isSome := (sound f (List.mem_of_getElem? at_k)).property (by simp [stored])
    obtain ⟨p, hp⟩ := Option.isSome_iff_exists.1 isSome
    obtain ⟨rfl, rfl⟩ := Prod.mk.inj
      (Option.some.inj (stored.symm.trans (FieldGroup.stored?_of_property? hp)))
    exact ⟨f, p, at_k, hp, (FieldGroup.becomes_of_property? hp).storageName⟩
  obtain ⟨f, p, at_i, hp, rfl⟩ := property first
  obtain ⟨g, q, at_j, hq, rfl⟩ := property second
  obtain ⟨hi, rfl⟩ := List.getElem?_eq_some_iff.1 at_i
  obtain ⟨hj, rfl⟩ := List.getElem?_eq_some_iff.1 at_j
  rw [List.pairwise_filterMap] at apart
  exact (List.pairwise_iff_getElem.1 apart i j hi hj before p hp q hq).1

/-- A struct with two fields of the same storage name in small letters cannot be built. -/
theorem not_built_of_lowercase_eq {entity : String} {fields : List FieldGroup} {i j : Nat}
    {s t : String} (different : i ≠ j) (first : StoredAs fields i s)
    (second : StoredAs fields j t) (same : lowercaseString s = lowercaseString t) (e : Entity) :
    (buildEntity entity fields).result ≠ .ok e := by
  intro built
  obtain ⟨sound, apart, -⟩ := buildEntity_result_eq_ok_iff.1 built
  rcases Nat.lt_or_gt_of_ne different with before | behind
  · exact ne_of_storedAs sound apart before first second same
  · exact ne_of_storedAs sound apart behind second first same.symm

/-! ## Fields that do not collide -/

/-- A struct with two fields, of which the first is the identity. -/
def pairFields (s t : String) : List FieldGroup :=
  [⟨[s], .ident "string", some "\x60id\x60"⟩, ⟨[t], .ident "string", none⟩]

theorem pairFields_storedAs (s t : String) :
    StoredAs (pairFields s t) 0 s ∧ StoredAs (pairFields s t) 1 t :=
  ⟨⟨_, s, _, rfl, rfl, rfl⟩, ⟨_, t, _, rfl, rfl, rfl⟩⟩

theorem pairFields_sound (s t : String) : ∀ f ∈ pairFields s t, f.Sound := by
  intro f hf
  simp only [pairFields, List.mem_cons, List.not_mem_nil, or_false] at hf
  rcases hf with rfl | rfl
  · refine ⟨rfl, ⟨_, rfl⟩, fun _ => rfl, fun name a stored => ?_⟩
    cases stored
    decide
  · refine ⟨rfl, ⟨_, rfl⟩, fun _ => rfl, fun name a stored => ?_⟩
    cases stored
    decide

/-- A struct of two fields can be built if their storage names differ in small letters. -/
theorem pairFields_built {s t : String} (entity : String)
    (different : lowercaseString s ≠ lowercaseString t) :
    ∃ e, (buildEntity entity (pairFields s t)).result = .ok e := by
  have apart : ((pairFields s t).filterMap FieldGroup.property?).Pairwise Property.Apart :=
    List.pairwise_pair.2 ⟨different, fun both => Bool.false_ne_true both.2⟩
  exact ⟨_, buildEntity_result_eq_ok_iff.2 ⟨pairFields_sound s t, apart, _, 0, rfl, rfl, rfl⟩⟩

/-- Names that agree letter by letter collide in every struct, wherever the two fields stand and
whatever the other fields are, if and only if no `Σ` at the end of a word of one of them stands
against a `σ` of the other. -/
theorem storageNames_collide_iff {s t : String} (agree : AgreeByLetter s.toList t.toList) :
    (∀ entity fields i j, i ≠ j → StoredAs fields i s → StoredAs fields j t →
      ∀ e, (buildEntity entity fields).result ≠ .ok e) ↔
      ¬SigmaAgainst s.toList t.toList ∧ ¬SigmaAgainst t.toList s.toList := by
  rw [← Text.lowercase_eq_iff agree]
  constructor
  · intro collide
    by_contra different
    obtain ⟨e, built⟩ := pairFields_built "" fun same => different (String.ofList_injective same)
    obtain ⟨first, second⟩ := pairFields_storedAs s t
    exact collide "" _ 0 1 (by decide) first second e built
  · intro same entity fields i j different first second
    exact not_built_of_lowercase_eq different first second (congrArg String.ofList same)

/-- Fields with a capital and a small sigma inside of a word, and with the same one at its end. -/
def middleFields : List FieldGroup := [
  ⟨["Id"], .ident "uint64", none⟩,
  ⟨["μεσοΣ"], .ident "string", none⟩,
  ⟨["Mean"], .ident "string", some "\x60nameInDb:\"ΜΕΣΟΣ\"\x60"⟩]

/-- They collide. -/
theorem storageNames_collide_iff_middleFields :
    AgreeByLetter "ΜΕΣΟΣ".toList "μεσοΣ".toList ∧
      StoredAs middleFields 2 "ΜΕΣΟΣ" ∧ StoredAs middleFields 1 "μεσοΣ" ∧
      ∀ e, (buildEntity "Average" middleFields).result ≠ .ok e := by
  have agree : AgreeByLetter "ΜΕΣΟΣ".toList "μεσοΣ".toList := by
    rw [AgreeByLetter]
    decide +kernel
  have first : StoredAs middleFields 2 "ΜΕΣΟΣ" := ⟨_, "Mean", _, rfl, rfl, rfl⟩
  have second : StoredAs middleFields 1 "μεσοΣ" := ⟨_, "μεσοΣ", _, rfl, rfl, rfl⟩
  have apart := (Text.lowercase_eq_iff agree).1 (by decide +kernel)
  exact ⟨agree, first, second,
    (storageNames_collide_iff agree).2 apart "Average" middleFields 2 1 (by decide) first second⟩

/-- Fields whose names differ in case alone. -/
def roadFields : List FieldGroup := [
  ⟨["Id"], .ident "uint64", none⟩,
  ⟨["ΟΔΟΣ"], .ident "string", none⟩,
  ⟨["οδοσ"], .ident "string", none⟩]

/-- They do not collide, since the capital sigma ends a word. -/
theorem roadFields_built :
    AgreeByLetter "ΟΔΟΣ".toList "οδοσ".toList ∧
      StoredAs roadFields 1 "ΟΔΟΣ" ∧ StoredAs roadFields 2 "οδοσ" ∧
      (buildEntity "Road" roadFields).result.map (·.properties.map Property.storageName) =
        .ok ["Id", "ΟΔΟΣ", "οδοσ"] := by
  refine ⟨?_, ⟨_, "ΟΔΟΣ", _, rfl, rfl, rfl⟩, ⟨_, "οδοσ", _, rfl, rfl, rfl⟩, by decide +kernel⟩
  rw [AgreeByLetter]
  decide +kernel

end EntityBinding
