import EntityBinding.Proofs.FirstOffence
import EntityBinding.Proofs.IndexRules
import EntityBinding.Proofs.Resolution
import EntityBinding.Proofs.TagEdits

/-!
# Entries that a build does not read

A build reads the values of three names (`valueNames`), and of four more it asks only whether they
are there (`markNames`).  Entries that agree in that much (`Annotations.Agree`) resolve a type
alike, derive the same flags and pass the same checks.

So let one entry be put to the tag of a field, such that the entries agree with those before
(`FieldGroup.Annotated`).  The field fails like before, or else becomes the same property with the
entry (`FieldGroup.Annotated.property?`).  The struct comes to the same error, or to the same entity
with the entry in that property (`buildEntity_of_annotated`).

Two changes of a tag do this (`buildEntity_annotate`): one word more with a name that no build
reads, and another value for a name whose value no build reads.  White space alone is a word behind
others too, but a tag that holds nothing else is blank (`buildEntity_blankWord`).
-/

namespace EntityBinding

open Text (isBlank trim)

/-- The names whose values a build reads. -/
def valueNames : List String := ["index", "nameindb", "link"]

/-- The names of which a build asks whether they are there. -/
def markNames : List String := ["id", "unique", "date", "transient"]

/-! ## Agreement -/

namespace Annotations

/-- Two tags agree in all that a build reads. -/
structure Agree (a b : Annotations) : Prop where
  /-- The values that are read are the same. -/
  values : ∀ name ∈ valueNames, b.get? name = a.get? name
  /-- The same marks are there. -/
  marks : ∀ name ∈ markNames, b.contains name = a.contains name

/-- Entries agree with what they were before one with a name that no build reads. -/
theorem agree_insert_of_unread (a : Annotations) {name : String} (value : String)
    (unread : name ∉ valueNames ++ markNames) : a.Agree (a.insert name value) where
  values := by
    intro n hn
    exact a.get?_insert_of_ne value (ne_of_mem_of_not_mem (List.mem_append_left _ hn) unread)
  marks := by
    intro n hn
    exact a.contains_insert_of_ne value (ne_of_mem_of_not_mem (List.mem_append_right _ hn) unread)

/-- Entries agree with what they were before a mark among them got another value. -/
theorem agree_insert_of_mark {a : Annotations} {name : String} (value : String)
    (mark : name ∈ markNames) (contained : a.contains name = true) :
    a.Agree (a.insert name value) where
  values := by
    have apart : ∀ n ∈ valueNames, n ∉ markNames := by decide
    intro n hn
    exact a.get?_insert_of_ne value fun same => apart n hn (same ▸ mark)
  marks := by
    intro n _
    by_cases same : n = name
    · rw [same, contained, contains_insert_self]
    · exact a.contains_insert_of_ne value same

end Annotations

variable {a b : Annotations}

theorem resolveType_agree (agree : a.Agree b) (type : TypeExpr) :
    resolveType type b = resolveType type a :=
  resolveType_congr (agree.marks "date" (by decide)) (agree.values "link" (by decide)) type

/-! ## Flags -/

namespace Property

/-- The property with the entries of another tag. -/
def retag (p : Property) (b : Annotations) : Property := { p with annotations := b }

theorem runRules_retag (b : Annotations) : ∀ (rules : List (List Flag)) (p : Property),
    (p.retag b).runRules rules = ((p.runRules rules).1, (p.runRules rules).2.retag b)
  | [], _ => rfl
  | rule :: rest, p => by
      rw [runRules, runRules, show (p.retag b).index = p.index from rfl]
      cases p.index with
      | some ids => rfl
      | none =>
          exact runRules_retag b rest
            { p with flags := p.flags ++ rule, index := some .unassigned }

theorem deriveFlags_retag {p : Property} (agree : p.annotations.Agree b) :
    (p.retag b).deriveFlags.outcome =
      (p.deriveFlags.outcome.1, p.deriveFlags.outcome.2.retag b) := by
  have index := agree.values "index" (by decide)
  have unique := agree.marks "unique" (by decide)
  have asks : ∀ value, (p.retag b).AsksUnknownKind value ↔ p.AsksUnknownKind value := by
    intro value
    rw [AsksUnknownKind, AsksUnknownKind, retag, index]
  have marked : (p.retag b).withId = p.withId.retag b := by
    have id := agree.marks "id" (by decide)
    simp only [withId, retag, Annotations.idFlags, id]
  by_cases unknown : ∃ value, p.AsksUnknownKind value
  · obtain ⟨value, unknown⟩ := unknown
    rw [deriveFlags_of_asksUnknownKind unknown,
      deriveFlags_of_asksUnknownKind ((asks value).2 unknown), marked]
  · have known := not_exists.1 unknown
    have rules : (p.retag b).indexRules = p.indexRules := by
      simp only [indexRules, retag, Annotations.indexRule, Annotations.uniqueRule, index, unique]
    rw [deriveFlags_outcome known, deriveFlags_outcome fun value => mt (asks value).1 (known value),
      marked, rules, runRules_retag]

end Property

theorem deriveFlags_declare (agree : a.Agree b) (name : String) (r : ResolvedType) :
    (Property.declare name b r).deriveFlags.failure =
        (Property.declare name a r).deriveFlags.failure ∧
      (Property.declare name b r).deriveFlags.property =
        (Property.declare name a r).deriveFlags.property.retag b := by
  have agree' : (Property.declare name a r).annotations.Agree b := agree
  have same := Property.deriveFlags_retag agree'
  rw [show Property.declare name b r = (Property.declare name a r).retag b from rfl]
  exact ⟨congrArg Prod.fst same, congrArg Prod.snd same⟩

theorem Check.storedError?_agree (agree : a.Agree b) (entity : String)
    (earlier : List FieldGroup) (type : TypeExpr) (name : String) (c : Check) :
    c.storedError? entity earlier type name b = c.storedError? entity earlier type name a := by
  have nameindb := agree.values "nameindb" (by decide)
  cases c with
  | names => rfl
  | tag => rfl
  | type => rw [storedError?, storedError?, resolveType_agree agree]
  | flags =>
      rw [storedError?, storedError?, resolveType_agree agree]
      split
      next => rw [(deriveFlags_declare agree name _).1]
      next => rfl
  | identity => rw [storedError?, storedError?, agree.marks "id" (by decide)]
  | storageName => rw [storedError?, storedError?, nameindb]
  | uniqueName => rw [storedError?, storedError?, storageNameOf, nameindb, storageNameOf]

/-! ## Fields -/

/-- The property with one entry put to those of its tag. -/
def Property.annotate (p : Property) (name value : String) : Property :=
  { p with annotations := p.annotations.insert name value }

/-- The field `g` is the field `f` with one entry put to those of its tag, which no build reads. -/
structure FieldGroup.Annotated (f g : FieldGroup) (name value : String) : Prop where
  /-- The same names are declared. -/
  names : g.names = f.names
  /-- The type is the same. -/
  type : g.type = f.type
  /-- One entry is put. -/
  tag : Tag.parseOptional g.tag = (Tag.parseOptional f.tag).map (·.insert name value)
  /-- The entries agree with those before. -/
  agree : ∀ a, Tag.parseOptional f.tag = .ok a → a.Agree (a.insert name value)

namespace FieldGroup.Annotated

variable {f g : FieldGroup} {name value : String}

theorem stored? (h : f.Annotated g name value) :
    g.stored? = f.stored?.map fun s => (s.1, s.2.insert name value) := by
  rw [FieldGroup.stored?, FieldGroup.stored?, h.names, h.tag]
  cases read : Tag.parseOptional f.tag with
  | error e =>
      cases f.names with
      | nil => rfl
      | cons n more => cases more <;> rfl
  | ok a =>
      have transient := (h.agree a read).marks "transient" (by decide)
      cases f.names with
      | nil => rfl
      | cons n more =>
          cases more with
          | cons n' more => rfl
          | nil =>
              simp only [Except.map, transient]
              split <;> rfl

theorem stored_eq_some (h : f.Annotated g name value) {n : String} {a : Annotations}
    (stored : f.stored? = some (n, a)) :
    g.stored? = some (n, a.insert name value) ∧ a.Agree (a.insert name value) := by
  refine ⟨?_, h.agree a (stored?_eq_some.1 stored).2.1⟩
  rw [h.stored?, stored]
  rfl

theorem stored_eq_none (h : f.Annotated g name value) (stored : f.stored? = none) :
    g.stored? = none := by
  rw [h.stored?, stored]
  rfl

/-- The field becomes the same property, with the entry put to it. -/
theorem property? (h : f.Annotated g name value) :
    g.property? = f.property?.map (·.annotate name value) := by
  cases stored : f.stored? with
  | none =>
      rw [property?_of_not_stored stored, property?_of_not_stored (h.stored_eq_none stored)]
      rfl
  | some s =>
      obtain ⟨n, a⟩ := s
      obtain ⟨stored', agree⟩ := h.stored_eq_some stored
      rw [FieldGroup.property?, FieldGroup.property?, stored, stored', h.type]
      simp only [resolveType_agree agree]
      cases resolveType f.type a with
      | error e => rfl
      | ok r =>
          obtain ⟨failure, property⟩ := deriveFlags_declare agree n r
          have storageName : storageNameOf n (a.insert name value) = storageNameOf n a := by
            rw [storageNameOf, agree.values "nameindb" (by decide), storageNameOf]
          simp only [failure, property, storageName]
          split
          next ok =>
            obtain ⟨derived, -⟩ := Property.deriveFlags_property ok
            rw [derived]
            rfl
          next => rfl

/-- The field fails like before. -/
theorem offence? (h : f.Annotated g name value) (entity : String) (earlier : List FieldGroup) :
    g.offence? entity earlier = f.offence? entity earlier := by
  have ofStored : ∀ c : Check,
      (g.stored?.bind fun s => c.storedError? entity earlier g.type s.1 s.2) =
        f.stored?.bind fun s => c.storedError? entity earlier f.type s.1 s.2 := by
    intro c
    cases stored : f.stored? with
    | none =>
        rw [h.stored_eq_none stored]
        rfl
    | some s =>
        obtain ⟨stored', agree⟩ := h.stored_eq_some stored
        rw [stored', h.type]
        exact Check.storedError?_agree agree entity earlier f.type s.1 c
  have checks : Check.error? entity earlier g = Check.error? entity earlier f := by
    funext c
    cases c with
    | names => rw [Check.error?, Check.error?, h.names]
    | tag =>
        rw [Check.error?, Check.error?, h.names, h.tag]
        cases Tag.parseOptional f.tag with
        | error e => rfl
        | ok a =>
            cases f.names with
            | nil => rfl
            | cons n more => cases more <;> rfl
    | type => exact ofStored .type
    | flags => exact ofStored .flags
    | identity => exact ofStored .identity
    | storageName => exact ofStored .storageName
    | uniqueName => exact ofStored .uniqueName
  rw [FieldGroup.offence?, checks, FieldGroup.offence?]

theorem sameNames (h : f.Annotated g name value) : SameNames [g] [f] := by
  cases stored : f.stored? with
  | none => constructor <;> simp [markedNames, takenNames, stored, h.stored_eq_none stored]
  | some s =>
      obtain ⟨stored', agree⟩ := h.stored_eq_some stored
      have id := agree.marks "id" (by decide)
      have nameindb := agree.values "nameindb" (by decide)
      constructor
      · simp [markedNames, stored, stored', List.filter_cons, id, apply_ite]
      · simp [takenNames, stored, stored', storageNameOf, nameindb]

end FieldGroup.Annotated

/-! ## The end of a build -/

theorem modify_modify_comm {α : Type} {f g : α → α} (comm : f ∘ g = g ∘ f) (xs : List α)
    (i j : Nat) : (xs.modify i f).modify j g = (xs.modify j g).modify i f := by
  by_cases same : i = j
  · rw [same, List.modify_modify_eq, List.modify_modify_eq, comm]
  · exact List.modify_modify_ne f g xs same

/-- The names of the candidates for an identity, with their positions. -/
def candidateNames (ps : List Property) : List (String × Nat) :=
  (ps.zipIdx.filter fun c => Entity.isIdentityCandidate c.1).map fun c => (c.1.name, c.2)

/-- An entry changes neither the candidates nor where they stand. -/
theorem candidateNames_annotate (before after : List Property) (p : Property)
    (name value : String) :
    candidateNames (before ++ p.annotate name value :: after) =
      candidateNames (before ++ p :: after) := by
  have same : Entity.isIdentityCandidate (p.annotate name value) =
      Entity.isIdentityCandidate p := rfl
  simp only [candidateNames, List.zipIdx_append, List.zipIdx_cons, List.filter_append,
    List.filter_cons, same]
  split
  · simp only [List.map_append, List.map_cons]
    rfl
  · rfl

namespace Draft

/-- Without a marked property, what a draft is finished to is decided by the names of the
candidates. -/
theorem finish_holding_of_unmarked {entity : String} {ps : List Property} (nonempty : ps ≠ [])
    (unmarked : ps.findIdx? Property.isMarked = none) :
    (holding entity ps).finish.result =
      match candidateNames ps with
      | [] => .error (.missingId entity)
      | [(_, i)] => .ok ⟨entity, 0, 0, ps.modify i (·.addFlag .id), some i, .unassigned⟩
      | (first, _) :: (second, _) :: _ => .error (.ambiguousId entity first second) := by
  have names : candidateNames ps =
      (holding entity ps).entity.identityCandidates.map fun c => (c.1.name, c.2) := rfl
  rw [finish_holding, if_neg nonempty, unmarked, names]
  cases (holding entity ps).entity.identityCandidates with
  | nil => rfl
  | cons first others => cases others <;> rfl

/-- A draft with an entry put to one of its properties comes to the same, with the entry. -/
theorem finish_annotate (entity : String) (before after : List Property) {p : Property}
    {name value : String} (marked : (p.annotate name value).isMarked = p.isMarked) :
    (holding entity (before ++ p.annotate name value :: after)).finish.result =
      (holding entity (before ++ p :: after)).finish.result.map
        (·.modify before.length (·.annotate name value)) := by
  have sameFirst : (before ++ p.annotate name value :: after).findIdx? Property.isMarked =
      (before ++ p :: after).findIdx? Property.isMarked := by
    rw [List.findIdx?_append, List.findIdx?_append, List.findIdx?_cons, List.findIdx?_cons, marked]
  have nonempty : ∀ q : Property, before ++ q :: after ≠ [] := by simp
  have put := (modify_append_cons (·.annotate name value) p after before).symm
  cases first : (before ++ p :: after).findIdx? Property.isMarked with
  | some i =>
      rw [finish_holding, finish_holding, sameFirst, first, if_neg (nonempty _),
        if_neg (nonempty _), put]
      rfl
  | none =>
      rw [finish_holding_of_unmarked (nonempty _) (sameFirst.trans first),
        finish_holding_of_unmarked (nonempty _) first, candidateNames_annotate]
      split
      next => rfl
      next =>
        have comm : (Property.annotate · name value) ∘ (Property.addFlag · .id) =
            (Property.addFlag · .id) ∘ (Property.annotate · name value) := rfl
        rw [put, modify_modify_comm comm]
        rfl
      next => rfl

end Draft

/-! ## Builds -/

/-- The entity with one entry put to the property of the field `f`, which comes after the fields
`before`.  A field that is not stored has no property. -/
def Entity.annotate (e : Entity) (before : List FieldGroup) (f : FieldGroup)
    (name value : String) : Entity :=
  if f.stored?.isSome then
    e.modify (before.filterMap FieldGroup.stored?).length (·.annotate name value)
  else
    e

/-- A struct with an entry put to the tag of one of its fields comes to the same, with the entry,
if the entry is not read. -/
theorem buildEntity_of_annotated {f g : FieldGroup} {name value : String}
    (h : f.Annotated g name value) (entity : String) (before after : List FieldGroup) :
    (buildEntity entity (before ++ g :: after)).result =
      (buildEntity entity (before ++ f :: after)).result.map
        (·.annotate before f name value) := by
  rw [buildEntity_result_eq, buildEntity_result_eq,
    firstOffence?_replace after (h.offence? entity before) h.sameNames]
  cases passes : firstOffence? entity [] (before ++ f :: after) with
  | some e => rfl
  | none =>
      have read := (firstOffence?_eq_none_iff.1 passes).allRead
      have readBefore : AllRead before := fun x hx => read x (List.mem_append_left _ hx)
      simp only [Draft.ofFields, List.filterMap_append]
      cases stored : f.stored?.isSome with
      | false =>
          have notStored : f.stored? = none := by simpa using stored
          have noProperty := FieldGroup.property?_of_not_stored notStored
          have noProperty' := FieldGroup.property?_of_not_stored (h.stored_eq_none notStored)
          have unchanged : (fun e : Entity => e.annotate before f name value) = id := by
            funext e
            rw [Entity.annotate, stored]
            rfl
          rw [List.filterMap_cons_none noProperty, List.filterMap_cons_none noProperty', unchanged]
          exact (congrFun Except.map_id _).symm
      | true =>
          obtain ⟨p, property⟩ := Option.isSome_iff_exists.1 (read f (by simp) stored)
          have property' : g.property? = some (p.annotate name value) := by
            rw [h.property?, property]
            rfl
          have position : (before.filterMap FieldGroup.stored?).length =
              (before.filterMap FieldGroup.property?).length := by
            rw [readBefore.stored, List.length_map]
          have put : (fun e : Entity => e.annotate before f name value) = fun e : Entity =>
              e.modify (before.filterMap FieldGroup.property?).length (·.annotate name value) := by
            funext e
            rw [Entity.annotate, stored, if_pos rfl, position]
          have agree := h.agree p.annotations (FieldGroup.becomes_of_property? property).tag
          have marked : (p.annotate name value).isMarked = p.isMarked :=
            agree.marks "id" (by decide)
          rw [List.filterMap_cons_some property, List.filterMap_cons_some property', put]
          exact Draft.finish_annotate entity _ _ marked

/-- Fields that are added alike can stand for each other. -/
theorem Draft.addFields_replace {f g : FieldGroup} (same : ∀ d : Draft, d.addField g = d.addField f)
    (after : List FieldGroup) : ∀ (before : List FieldGroup) (d : Draft),
      d.addFields (before ++ g :: after) = d.addFields (before ++ f :: after)
  | [], d => by rw [List.nil_append, List.nil_append, addFields, addFields, same]
  | x :: before, d => by
      simp only [List.cons_append, addFields, addFields_replace same after before]

/-- The tag of a field counts by its entries alone. -/
theorem buildEntity_of_sameEntries {f : FieldGroup} {tag : Option String}
    (same : Tag.parseOptional tag = Tag.parseOptional f.tag) (entity : String)
    (before after : List FieldGroup) :
    buildEntity entity (before ++ { f with tag := tag } :: after) =
      buildEntity entity (before ++ f :: after) := by
  have added : ∀ d : Draft, d.addField { f with tag := tag } = d.addField f := by
    intro d
    simp only [Draft.addField, same]
  rw [buildEntity, Draft.addFields_replace added, buildEntity]

/-- A build takes no notice of entries that it does not read.

Let a word be written at the end of a tag, or as the tag of a field that had none.  If its name is
new to the tag and no build reads it, the struct comes to the same error, or to the same entity with
the entry of the word in the property of the field.  White space alone, as the tag of a field that
had none, makes no entry and changes nothing.

Let the value of a word be replaced, for a name whose value no build reads.  Then the struct comes
to the same error, or to the same entity with the new value in the property of the field. -/
theorem buildEntity_annotate (entity : String) (before after : List FieldGroup) (f : FieldGroup) :
    (∀ word name value new, Tag.IsWord word → Tag.Reads word (name, value) →
      name ∉ valueNames ++ markNames → name ∉ Tag.namesIn f.tag → Tag.Extends word f.tag new →
      (buildEntity entity (before ++ { f with tag := some new } :: after)).result =
        if f.tag = none ∧ isBlank word = true then
          (buildEntity entity (before ++ f :: after)).result
        else
          (buildEntity entity (before ++ f :: after)).result.map
            (·.annotate before f name value)) ∧
    ∀ name value old new, name ∈ markNames → ' ' ∉ value → f.tag = some old →
      Tag.Revalues name value old new →
      (buildEntity entity (before ++ { f with tag := some new } :: after)).result =
        (buildEntity entity (before ++ f :: after)).result.map
          (·.annotate before f name (String.ofList (trim value))) := by
  constructor
  · intro word name value new one reads unread fresh extended
    split
    next blank =>
      obtain ⟨untagged, blank⟩ := blank
      rw [untagged] at extended
      cases extended
      have same : Tag.parseOptional (some (Tag.wrap word)) = Tag.parseOptional f.tag := by
        rw [untagged]
        exact Tag.parse_wrap_of_blank blank
      rw [buildEntity_of_sameEntries same]
    next notBlank =>
      have annotated : f.Annotated { f with tag := some new } name value := by
        refine ⟨rfl, rfl, ?_, fun a _ => a.agree_insert_of_unread value unread⟩
        exact Tag.parseOptional_of_extends extended one reads fresh
          fun untagged => Bool.eq_false_iff.2 fun blank => notBlank ⟨untagged, blank⟩
      exact buildEntity_of_annotated annotated entity before after
  · intro name value old new mark noSpace tagged revalued
    have annotated :
        f.Annotated { f with tag := some new } name (String.ofList (trim value)) := by
      refine ⟨rfl, rfl, ?_, fun a read => ?_⟩
      · rw [tagged]
        exact Tag.parse_of_revalues revalued noSpace
      · rw [tagged] at read
        exact Annotations.agree_insert_of_mark _ mark
          (Tag.contains_of_revalues revalued noSpace read)
    exact buildEntity_of_annotated annotated entity before after

/-- A marked field, with a value that no build reads. -/
def keyField : FieldGroup := ⟨["Key"], .ident "uint64", some "\x60id:\"x\"\x60"⟩

/-- A field with a tag, and with the name of an identity. -/
def numberField : FieldGroup := ⟨["Id"], .ident "uint64", some "\x60unique\x60"⟩

/-- A `note` in capital letters behind the tag of the one field, and the value `y` with a tab before
it for that of the other. -/
theorem buildEntity_annotate_keyField :
    (buildEntity "Visit" [keyField, numberField]).result.map Entity.identity = .ok (some 0) ∧
      (buildEntity "Visit" [keyField,
          { numberField with tag := some "\x60unique NOTE:\"a\"\x60" }]).result =
        (buildEntity "Visit" [keyField, numberField]).result.map
          (·.annotate [keyField] numberField "note" "a") ∧
      (buildEntity "Visit" [{ keyField with tag := some "\x60id:\"\ty\"\x60" },
          numberField]).result =
        (buildEntity "Visit" [keyField, numberField]).result.map
          (·.annotate [] keyField "id" "y") := by
  refine ⟨by decide +kernel, ?_, ?_⟩
  · have old : numberField.tag = some (Tag.wrap "unique".toList) := by decide
    have new : "\x60unique NOTE:\"a\"\x60" =
        Tag.wrap ("unique".toList ++ ' ' :: Tag.valued "NOTE".toList "a".toList) := by decide
    have extended : Tag.Extends (Tag.valued "NOTE".toList "a".toList) numberField.tag
        "\x60unique NOTE:\"a\"\x60" := by
      rw [old, new]
      exact .further (by decide)
    have reads : Tag.Reads (Tag.valued "NOTE".toList "a".toList) ("note", "a") :=
      .valued (by decide)
    have result := (buildEntity_annotate "Visit" [keyField] [] numberField).1 _ "note" "a" _
      ⟨by decide, by decide⟩ reads (by decide) (by decide +kernel) extended
    rw [if_neg (by simp [numberField])] at result
    exact result
  · have old : "\x60id:\"x\"\x60" = String.ofList ('\x60' ::
        ([] ++ (Tag.valued "id".toList "x".toList ++ []) ++ ['\x60'])) := by decide
    have new : "\x60id:\"\ty\"\x60" = String.ofList ('\x60' ::
        ([] ++ (Tag.valued "id".toList "\ty".toList ++ []) ++ ['\x60'])) := by decide
    have revalued : Tag.Revalues "id" "\ty".toList "\x60id:\"x\"\x60" "\x60id:\"\ty\"\x60" := by
      rw [old, new]
      exact .wrapped (.inl rfl) (.intro (.inl rfl) (.inl rfl) (by decide) (by decide)
        (by decide +kernel) (by decide))
    have trimmed : String.ofList (trim "\ty".toList) = "y" := by decide +kernel
    have result := (buildEntity_annotate "Visit" [] [numberField] keyField).2 "id" _ _ _
      (by decide) (by decide) rfl revalued
    rw [trimmed] at result
    exact result

/-- A tab is a word that makes an entry, but a tag that holds it alone is blank, and so the entity
has no such entry. -/
theorem buildEntity_blankWord :
    let untagged : FieldGroup := ⟨["Id"], .ident "uint64", none⟩
    Tag.IsWord ['\t'] ∧ Tag.Reads ['\t'] ("\t", "") ∧ "\t" ∉ valueNames ++ markNames ∧
      "\t" ∉ Tag.namesIn untagged.tag ∧ Tag.Extends ['\t'] untagged.tag "\x60\t\x60" ∧
      (buildEntity "Visit" [{ untagged with tag := some "\x60\t\x60" }]).result ≠
        (buildEntity "Visit" [untagged]).result.map (·.annotate [] untagged "\t" "") := by
  have reads : Tag.Reads ['\t'] (String.ofList (Text.lowercase ['\t']), "") := .bare (by decide)
  exact ⟨⟨by decide, by decide⟩, reads, by decide, by decide, .first, by decide +kernel⟩

end EntityBinding
