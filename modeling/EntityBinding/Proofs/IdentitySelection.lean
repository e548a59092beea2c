import EntityBinding.Proofs.Events
import EntityBinding.Proofs.TextForms
import EntityBinding.Proofs.TypeAgreement

/-!
# Which property is the identity

If all fields of a struct pass, its properties alone decide which of them is the identity
(`SelectsIdentity`).  A property that is marked is the identity as it stands.  If none is marked,
the one with the conventional name and type (`Property.IsConventional`) becomes the identity, and
it is an error if there is none or more than one.

`identity_selection` says that a build comes to just what this relation allows, and that it
infers nothing if a property is marked.  Conventional names are equal in small letters, so two of
them stand in one struct only if a tag gives one of the fields another storage name
(`ambiguousId_of_renamed`).
-/

namespace EntityBinding

open Text (lowercaseString equalsIgnoringAsciiCase)

/-- A property has the conventional name of an identity, in letters of any case, and the
conventional type. -/
def Property.IsConventional (p : Property) : Prop :=
  p.name ∈ ["id", "Id", "iD", "ID"] ∧ p.declaredType = "uint64"

instance (p : Property) : Decidable p.IsConventional := inferInstanceAs (Decidable (_ ∧ _))

/-- `SelectsIdentity entity ps r` says that a struct called `entity` with the properties `ps`
comes to `r` when its identity is chosen. -/
inductive SelectsIdentity (entity : String) :
    List Property → Except DiscoveryError Entity → Prop where
  /-- A marked property is the identity, whatever its name and its type are. -/
  | marked {before after : List Property} {p : Property} :
      p.annotations.contains "id" = true →
      SelectsIdentity entity (before ++ p :: after)
        (.ok ⟨entity, 0, 0, before ++ p :: after, some before.length, .unassigned⟩)
  /-- The only conventional property gets the flag of an identity, behind its other flags. -/
  | inferred {before after : List Property} {p : Property} :
      (∀ q ∈ before ++ p :: after, q.annotations.contains "id" = false) →
      p.IsConventional → (∀ q ∈ before ++ after, ¬q.IsConventional) →
      SelectsIdentity entity (before ++ p :: after)
        (.ok ⟨entity, 0, 0, before ++ { p with flags := p.flags ++ [.id] } :: after,
          some before.length, .unassigned⟩)
  /-- There is neither a marked nor a conventional property. -/
  | missing {ps : List Property} :
      (∀ q ∈ ps, q.annotations.contains "id" = false) → (∀ q ∈ ps, ¬q.IsConventional) →
      SelectsIdentity entity ps (.error (.missingId entity))
  /-- Of several conventional properties the error names the first two. -/
  | ambiguous {before between after : List Property} {p q : Property} :
      (∀ r ∈ before ++ p :: (between ++ q :: after), r.annotations.contains "id" = false) →
      p.IsConventional → q.IsConventional → (∀ r ∈ before ++ between, ¬r.IsConventional) →
      SelectsIdentity entity (before ++ p :: (between ++ q :: after))
        (.error (.ambiguousId entity p.name q.name))

/-! ## Conventional properties -/

namespace Text

/-- A letter with a certain small form is that form or the capital of it. -/
theorem eq_or_eq_of_toLower_eq {c small : Char} (capital : Char) (h : c.toLower = small)
    (pair : capital.toNat + 32 = small.toNat) : c = small ∨ c = capital := by
  by_cases upper : c.val ≥ 'A'.val ∧ c.val ≤ 'Z'.val
  · right
    have value : c.toLower.val = c.val + 32 := congrArg Char.val (dif_pos upper)
    have last : c.val.toNat ≤ 90 := upper.2
    have code : c.toLower.toNat = c.toNat + 32 := by
      show c.toLower.val.toNat = c.val.toNat + 32
      rw [value, UInt32.toNat_add]
      exact Nat.mod_eq_of_lt (Nat.lt_of_le_of_lt (Nat.add_le_add_right last 32) (by decide))
    rw [h] at code
    exact toNat_injective (by omega)
  · left
    have same : c.toLower = c := dif_neg upper
    exact same.symm.trans h

/-- The texts that are `id`, in letters of any case. -/
theorem equalsIgnoringAsciiCase_id_iff {s : String} :
    equalsIgnoringAsciiCase s "id" = true ↔ s ∈ ["id", "Id", "iD", "ID"] := by
  constructor
  · intro equal
    have letters : s.toList.map Char.toLower = ['i', 'd'] := eq_of_beq equal
    obtain ⟨c, rest, split, first, letters⟩ := List.map_eq_cons_iff.1 letters
    obtain ⟨d, rest', rfl, second, letters⟩ := List.map_eq_cons_iff.1 letters
    rw [List.map_eq_nil_iff.1 letters] at split
    have text : s = String.ofList [c, d] := by rw [← split, String.ofList_toList]
    rcases eq_or_eq_of_toLower_eq 'I' first rfl with rfl | rfl <;>
    rcases eq_or_eq_of_toLower_eq 'D' second rfl with rfl | rfl <;>
    simp [text]
  · have all : ∀ t ∈ ["id", "Id", "iD", "ID"], equalsIgnoringAsciiCase t "id" = true := by
      decide +kernel
    exact all s

end Text

/-- Among the properties of fields the candidates are the conventional ones. -/
theorem FieldGroup.Becomes.isIdentityCandidate_iff {f : FieldGroup} {p : Property}
    (becomes : f.Becomes p) : Entity.isIdentityCandidate p = true ↔ p.IsConventional := by
  have exact : ∀ row ∈ baseTypes, equalsIgnoringAsciiCase row.1 "uint64" = true ↔
      row.1 = "uint64" := by
    decide +kernel
  obtain ⟨base, row, -⟩ := becomes.row
  rw [Entity.isIdentityCandidate, Bool.and_eq_true, Text.equalsIgnoringAsciiCase_id_iff,
    exact _ (mem_baseTypes row)]
  rfl

/-- The storage name of a conventional property is `id` in small letters, unless its tag gives it
another one. -/
theorem FieldGroup.Becomes.lowercase_of_isConventional {f : FieldGroup} {p : Property}
    (becomes : f.Becomes p) (conventional : p.IsConventional)
    (plain : p.annotations.contains "nameindb" = false) :
    lowercaseString p.storageName = "id" := by
  have all : ∀ name ∈ ["id", "Id", "iD", "ID"], lowercaseString name = "id" := by decide +kernel
  have noName : p.annotations.get? "nameindb" = none := by
    simpa [Annotations.contains] using plain
  rw [becomes.storageName, storageNameOf, noName]
  exact all _ conventional.1

/-- Of two conventional properties that are apart one has another storage name. -/
theorem FieldGroup.Becomes.renamed_of_apart {f g : FieldGroup} {p q : Property}
    (becomes : f.Becomes p) (becomes' : g.Becomes q) (first : p.IsConventional)
    (second : q.IsConventional) (apart : p.Apart q) :
    p.annotations.contains "nameindb" = true ∨ q.annotations.contains "nameindb" = true := by
  by_contra plain
  simp only [not_or, Bool.not_eq_true] at plain
  apply apart.1
  rw [becomes.lowercase_of_isConventional first plain.1,
    becomes'.lowercase_of_isConventional second plain.2]

/-! ## The end of a build -/

namespace Draft

variable {entity : String} {ps : List Property}

/-- A draft comes to what the choice of its identity does. -/
theorem finish_of_selectsIdentity {r : Except DiscoveryError Entity} (nonempty : ps ≠ [])
    (apart : ps.Pairwise Property.Apart)
    (candidates : ps.filter Entity.isIdentityCandidate = ps.filter (·.IsConventional))
    (selects : SelectsIdentity entity ps r) : (holding entity ps).finish.result = r := by
  -- One choice finishes a draft.  Without one, the list of the candidates tells the error.
  have listed := (map_fst_identityCandidates (holding entity ps).entity).trans candidates
  cases selects with
  | @marked before after p marked =>
      have hp : p ∈ before ++ p :: after := by simp
      have choice : identityChoices (before ++ p :: after) = [p] := by
        rw [identityChoices_of_marked hp marked, filter_isMarked_eq_singleton apart hp marked]
      rw [finish_of_choice apart choice (i := before.length) (by simp),
        map_beside_of_marked _ marked]
  | @inferred before after p unmarked conventional alone =>
      have choice : identityChoices (before ++ p :: after) = [p] := by
        rw [identityChoices_of_unmarked unmarked, candidates, List.filter_eq_cons_iff]
        refine ⟨before, after, rfl, ?_, by simpa using conventional, ?_⟩
        · simpa using fun q hq => alone q (List.mem_append_left _ hq)
        · simpa using fun q hq => alone q (List.mem_append_right _ hq)
      have at_p : (before ++ p :: after)[before.length]? = some p := by simp
      have modified : (before ++ p :: after).modify before.length (·.addFlag .id) =
          before ++ p.addFlag .id :: after := modify_append_cons _ p after before
      rw [finish_of_choice apart choice at_p, map_beside_of_unmarked
        (nodup_of_pairwise_apart apart) at_p (unmarked p (by simp)), modified]
      rfl
  | missing unmarked none =>
      have noCandidate : ps.filter (·.IsConventional) = [] := by simpa using none
      rw [finish_of_unmarked nonempty unmarked, Entity.inferIdentity_result,
        List.map_eq_nil_iff.1 (listed.trans noCandidate)]
      rfl
  | @ambiguous before between after p q unmarked first second none =>
      have two : (before ++ p :: (between ++ q :: after)).filter (·.IsConventional) =
          p :: q :: after.filter (·.IsConventional) := by
        rw [List.filter_eq_cons_iff]
        refine ⟨before, _, rfl, ?_, by simpa using first, ?_⟩
        · simpa using fun r hr => none r (List.mem_append_left _ hr)
        rw [List.filter_eq_cons_iff]
        refine ⟨between, after, rfl, ?_, by simpa using second, rfl⟩
        simpa using fun r hr => none r (List.mem_append_right _ hr)
      obtain ⟨⟨p', i⟩, others, split, rfl, others'⟩ := List.map_eq_cons_iff.1 (listed.trans two)
      obtain ⟨⟨q', j⟩, more, rfl, rfl, -⟩ := List.map_eq_cons_iff.1 others'
      rw [finish_of_unmarked nonempty unmarked, Entity.inferIdentity_result, split]
      rfl

end Draft

/-- The choice of an identity always comes to something. -/
theorem exists_selectsIdentity (entity : String) (ps : List Property) :
    ∃ r, SelectsIdentity entity ps r := by
  by_cases someMarked : ∃ p ∈ ps, p.annotations.contains "id" = true
  · obtain ⟨p, hp, marked⟩ := someMarked
    obtain ⟨before, after, rfl⟩ := List.append_of_mem hp
    exact ⟨_, .marked marked⟩
  have unmarked : ∀ p ∈ ps, p.annotations.contains "id" = false := by simpa using someMarked
  cases one : ps.filter (·.IsConventional) with
  | nil => exact ⟨_, .missing unmarked (by simpa using one)⟩
  | cons p others =>
      obtain ⟨before, rest, rfl, noneBefore, first, two⟩ := List.filter_eq_cons_iff.1 one
      have noneBefore : ∀ r ∈ before, ¬r.IsConventional := by simpa using noneBefore
      have first : p.IsConventional := by simpa using first
      cases others with
      | nil =>
          have noneAfter : ∀ r ∈ rest, ¬r.IsConventional := by simpa using two
          exact ⟨_, .inferred unmarked first (List.forall_mem_append.2 ⟨noneBefore, noneAfter⟩)⟩
      | cons q more =>
          obtain ⟨between, after, rfl, noneBetween, second, -⟩ := List.filter_eq_cons_iff.1 two
          have noneBetween : ∀ r ∈ between, ¬r.IsConventional := by simpa using noneBetween
          exact ⟨_, .ambiguous unmarked first (by simpa using second)
            (List.forall_mem_append.2 ⟨noneBefore, noneBetween⟩)⟩

/-! ## Builds -/

/-- The properties of a struct whose fields all pass, with their candidates. -/
theorem filter_isIdentityCandidate (fields : List FieldGroup) :
    (fields.filterMap FieldGroup.property?).filter Entity.isIdentityCandidate =
      (fields.filterMap FieldGroup.property?).filter (·.IsConventional) := by
  refine List.filter_congr fun p hp => ?_
  obtain ⟨f, -, becomes⟩ := exists_becomes hp
  rw [Bool.eq_iff_iff, decide_eq_true_eq]
  exact becomes.isIdentityCandidate_iff

/-- A build whose fields all pass and leave a property comes to what the choice of its identity
does. -/
theorem buildEntity_result_eq_iff {entity : String} {fields : List FieldGroup}
    (pass : AllPass entity fields) (nonempty : fields.filterMap FieldGroup.property? ≠ [])
    {r : Except DiscoveryError Entity} :
    (buildEntity entity fields).result = r ↔
      SelectsIdentity entity (fields.filterMap FieldGroup.property?) r := by
  have selected : ∀ {r}, SelectsIdentity entity (fields.filterMap FieldGroup.property?) r →
      (buildEntity entity fields).result = r := by
    intro r selects
    rw [buildEntity_result_of_allPass pass]
    exact Draft.finish_of_selectsIdentity nonempty pass.pairwise_apart
      (filter_isIdentityCandidate fields) selects
  constructor
  · rintro rfl
    obtain ⟨r, selects⟩ := exists_selectsIdentity entity (fields.filterMap FieldGroup.property?)
    rw [selected selects]
    exact selects
  · exact selected

/-- An identity is ambiguous only if a tag gives a conventional property another storage name. -/
theorem ambiguousId_of_renamed {entity name first second : String} {fields : List FieldGroup}
    (failed : (buildEntity entity fields).result = .error (.ambiguousId name first second)) :
    ∃ f ∈ fields, ∃ p, f.Becomes p ∧ p.IsConventional ∧
      p.annotations.contains "nameindb" = true := by
  rcases buildEntity_error failed with level | ⟨-, pass⟩
  · cases level
  have nonempty : fields.filterMap FieldGroup.property? ≠ [] := by
    intro empty
    rw [buildEntity_result_of_allPass pass, Draft.ofFields, empty] at failed
    cases failed
  have selects := (buildEntity_result_eq_iff pass nonempty).1 failed
  have apart := pass.pairwise_apart
  generalize split : fields.filterMap FieldGroup.property? = ps at selects apart
  cases selects with
  | @ambiguous before between after p q unmarked first second none =>
      have hp : p ∈ fields.filterMap FieldGroup.property? := by simp [split]
      have hq : q ∈ fields.filterMap FieldGroup.property? := by simp [split]
      obtain ⟨f, hf, becomes⟩ := exists_becomes hp
      obtain ⟨g, hg, becomes'⟩ := exists_becomes hq
      have tail := (List.pairwise_append.1 apart).2.1
      have pair : p.Apart q := (List.pairwise_cons.1 tail).1 q (by simp)
      rcases becomes.renamed_of_apart becomes' first second pair with renamed | renamed
      · exact ⟨f, hf, p, becomes, first, renamed⟩
      · exact ⟨g, hg, q, becomes', second, renamed⟩

/-- If all fields of a struct pass and some are stored, its build comes to exactly what the choice
of the identity among their properties does, and infers nothing if one of them is marked.  The
identity of any struct is ambiguous only if a tag gives one of the candidates another storage
name. -/
theorem identity_selection (entity : String) (fields : List FieldGroup) :
    (AllPass entity fields → (∃ f ∈ fields, f.stored?.isSome = true) →
      ∃ ps, List.Forall₂ FieldGroup.Becomes (fields.filter fun f => f.stored?.isSome) ps ∧
        (∀ r, (buildEntity entity fields).result = r ↔ SelectsIdentity entity ps r) ∧
        ((∃ p ∈ ps, p.annotations.contains "id" = true) → ∀ name property,
          Event.identityInferred name property ∉ (buildEntity entity fields).events)) ∧
    ∀ name first second,
      (buildEntity entity fields).result = .error (.ambiguousId name first second) →
        ∃ f ∈ fields, ∃ p, f.Becomes p ∧ p.IsConventional ∧
          p.annotations.contains "nameindb" = true := by
  refine ⟨?_, fun _ _ _ failed => ambiguousId_of_renamed failed⟩
  rintro pass ⟨f, hf, stored⟩
  obtain ⟨p, property⟩ := Option.isSome_iff_exists.1 (pass.allRead f hf stored)
  have nonempty : fields.filterMap FieldGroup.property? ≠ [] :=
    List.ne_nil_of_mem (List.mem_filterMap.2 ⟨f, hf, property⟩)
  refine ⟨_, pass.allRead.becomes, fun r => buildEntity_result_eq_iff pass nonempty, ?_⟩
  rintro ⟨q, hq, marked⟩
  exact identityInferred_not_mem_of_marked pass hq marked

/-- Two fields with the conventional name and type, of which one is renamed. -/
example :
    (buildEntity "User" [⟨["Name"], .ident "string", none⟩, ⟨["Id"], .ident "uint64", none⟩,
      ⟨["ID"], .ident "uint64", some "\x60nameindb:\"key\"\x60"⟩]).result =
        .error (.ambiguousId "User" "Id" "ID") := by
  rfl

end EntityBinding
