import EntityBinding.Proofs.Items

/-!
# The tag of a field

The tag of a field stands in the attribute that the settings name.  Only the attributes whose path
is that single name count (`Attribute.isNamed_iff`), wherever they stand among the others
(`findTag_filter`).

* Without any there is no tag.
* The first of them is one string literal and nothing else, or its error is that of the field.
* A second one is an error, whatever it says.

`SelectsTag` states these rules for the attributes of the name, and a field comes to just what they
allow (`fieldTag_eq_iff`).

A file is lowered if and only if every field of its structs has a tag or none, and else the first
field that is wrong gives the error.  If it is lowered, the structs stay in order with their fields,
and each field with its own tag (`StructItem.LoweredTo`).  `lowerFile_decided_by_tags` puts both
together.
-/

namespace EntityBinding.Source

/-! ## One attribute -/

/-- An attribute has a name if its path is one identifier, without `::` before it, that is written
as the name is. -/
theorem Attribute.isNamed_iff {a : Attribute} {name : String} :
    a.isNamed name = true ↔ ∃ id, a.rooted = false ∧ a.path = [id] ∧ id.text = name := by
  obtain ⟨rooted, path, argument⟩ := a
  constructor
  · intro named
    unfold isNamed at named
    split at named
    next id relative single => exact ⟨id, relative, single, beq_iff_eq.1 named⟩
    next => cases named
  · rintro ⟨id, rfl, rfl, rfl⟩
    exact beq_self_eq_true id.text

/-- An attribute consists of one string literal of this value. -/
def AttributeArgument.IsString (a : AttributeArgument) (value : String) : Prop :=
  ∃ text, a = .list [.literal (.string text value)]

theorem AttributeArgument.string_eq_ok_iff {a : AttributeArgument} {value : String} :
    a.string = .ok value ↔ a.IsString value := by
  constructor
  · intro h
    unfold string at h
    split at h
    case h_4 text _ =>
      cases h
      exact ⟨text, rfl⟩
    all_goals cases h
  · rintro ⟨text, rfl⟩
    rfl

/-! ## The attributes of a field -/

variable {settings : Settings} {attributes : List Attribute}

/-- `SelectsTag settings named r` says that a field comes to `r` when its tag is read, if `named`
are its attributes of the name that the settings give. -/
inductive SelectsTag (settings : Settings) :
    List Attribute → Except DiscoveryError (Option String) → Prop where
  /-- Without such an attribute there is no tag. -/
  | absent : SelectsTag settings [] (.ok none)
  /-- The first one is not one string, whatever follows it. -/
  | malformed {first : Attribute} {more : List Attribute} {e : TagError} :
      (∀ value, ¬first.argument.IsString value) → first.argument.string = .error e →
      SelectsTag settings (first :: more)
        (.error (.frontend (e.message settings.tagAttribute)))
  /-- The first one is one string and a second one follows, whatever it says. -/
  | duplicate {first second : Attribute} {more : List Attribute} {value : String} :
      first.argument.IsString value →
      SelectsTag settings (first :: second :: more)
        (.error (.frontend ("duplicate #[" ++ settings.tagAttribute ++ "] attribute")))
  /-- The only one is one string, which is the tag. -/
  | present {only : Attribute} {value : String} :
      only.argument.IsString value → SelectsTag settings [only] (.ok (some value))

/-- The attributes of other names are not looked at. -/
theorem findTag_filter (name : String) : ∀ (attributes : List Attribute) (found : Option String),
    findTag name found (attributes.filter (·.isNamed name)) = findTag name found attributes
  | [], _ => rfl
  | a :: rest, found => by
      cases named : a.isNamed name with
      | false =>
          simp only [List.filter_cons, named, findTag]
          exact findTag_filter name rest found
      | true =>
          simp only [List.filter_cons, named, findTag, if_true]
          cases found with
          | some tag => rfl
          | none =>
              cases a.argument.string with
              | error e => rfl
              | ok tag => exact findTag_filter name rest (some tag)

/-- A field comes to what the rules allow for its attributes of the name. -/
theorem fieldTag_of_selectsTag {r : Except DiscoveryError (Option String)}
    (selects : SelectsTag settings (attributes.filter (·.isNamed settings.tagAttribute)) r) :
    fieldTag settings attributes = r := by
  have named : ∀ a ∈ attributes.filter (·.isNamed settings.tagAttribute),
      a.isNamed settings.tagAttribute = true := fun a ha => (List.mem_filter.1 ha).2
  rw [fieldTag, ← findTag_filter]
  generalize attributes.filter (·.isNamed settings.tagAttribute) = those at selects named
  cases selects with
  | absent => rfl
  | malformed _ wrong => simp only [findTag, named _ List.mem_cons_self, wrong, if_true]
  | duplicate one =>
      have first := AttributeArgument.string_eq_ok_iff.2 one
      have second := named _ (List.mem_cons_of_mem _ List.mem_cons_self)
      simp only [findTag, named _ List.mem_cons_self, first, second, if_true]
      rfl
  | present one =>
      have only := AttributeArgument.string_eq_ok_iff.2 one
      simp only [findTag, named _ List.mem_cons_self, only, if_true]

/-- The rules always come to something. -/
theorem exists_selectsTag (settings : Settings) (named : List Attribute) :
    ∃ r, SelectsTag settings named r := by
  cases named with
  | nil => exact ⟨_, .absent⟩
  | cons first more =>
      cases read : first.argument.string with
      | error e =>
          refine ⟨_, .malformed (fun value one => ?_) read⟩
          rw [AttributeArgument.string_eq_ok_iff.2 one] at read
          cases read
      | ok value =>
          have one := AttributeArgument.string_eq_ok_iff.1 read
          cases more with
          | nil => exact ⟨_, .present one⟩
          | cons second rest => exact ⟨_, .duplicate one⟩

/-- The tag of a field is read by the rules, from its attributes of the name alone. -/
theorem fieldTag_eq_iff {r : Except DiscoveryError (Option String)} :
    fieldTag settings attributes = r ↔
      SelectsTag settings (attributes.filter (·.isNamed settings.tagAttribute)) r := by
  constructor
  · rintro rfl
    obtain ⟨r, selects⟩ :=
      exists_selectsTag settings (attributes.filter (·.isNamed settings.tagAttribute))
    rw [fieldTag_of_selectsTag selects]
    exact selects
  · exact fieldTag_of_selectsTag

/-! ## The fields of a file -/

/-- The fields of the structs of some items, in order. -/
def Item.fieldsOf (items : List Item) : List StructField :=
  (Item.structsOf items).flatMap Prod.snd

theorem StructField.tagError?_eq_some_iff {f : StructField} {e : DiscoveryError} :
    f.tagError? settings = some e ↔ fieldTag settings f.attributes = .error e := by
  rw [tagError?]
  cases fieldTag settings f.attributes with
  | ok tag => simp
  | error wrong => simp

theorem StructField.tagError?_eq_none_iff {f : StructField} :
    f.tagError? settings = none ↔ ∃ tag, fieldTag settings f.attributes = .ok tag := by
  rw [tagError?]
  cases fieldTag settings f.attributes with
  | ok tag => simp
  | error wrong => simp

/-- A field group is what a field is lowered to: its name, its type, and its own tag. -/
structure StructField.LoweredTo (settings : Settings) (f : StructField) (g : FieldGroup) :
    Prop where
  /-- A field with a name declares that name, and a field without a name none. -/
  names : g.names = f.name.toList.map Ident.name
  /-- The type of the field. -/
  type : g.type = f.type.lower
  /-- The tag that is read from the attributes of the field. -/
  tag : fieldTag settings f.attributes = .ok g.tag

/-- A struct is lowered under its name, with its fields one by one. -/
structure StructItem.LoweredTo (settings : Settings) (s : StructItem) (n : NamedStruct) :
    Prop where
  /-- The name of the struct. -/
  name : n.1 = s.1.name
  /-- The fields in order, each with its field group. -/
  fields : List.Forall₂ (StructField.LoweredTo settings) s.2 n.2

theorem StructField.group_loweredTo {f : StructField} (right : f.tagError? settings = none) :
    f.LoweredTo settings (f.group settings) := by
  obtain ⟨tag, read⟩ := tagError?_eq_none_iff.1 right
  refine ⟨rfl, rfl, ?_⟩
  simp only [group, StructField.tag, read]

theorem lowerFile_eq_error_iff {items : List Item} {e : DiscoveryError} :
    lowerFile settings items = .error e ↔
      tagErrorOf? settings (Item.structsOf items) = some e := by
  have lowered := lowerFile_spec settings items
  cases wrong : tagErrorOf? settings (Item.structsOf items) with
  | some first =>
      rw [wrong] at lowered
      rw [lowered, Except.error.injEq, Option.some.injEq]
  | none =>
      rw [wrong] at lowered
      obtain ⟨unit, done, -⟩ := lowered
      simp [done]

/-- The error of a file is that of its first field whose tag is wrong. -/
theorem lowerFile_eq_error_iff_first {items : List Item} {e : DiscoveryError} :
    lowerFile settings items = .error e ↔
      ∃ before f after, Item.fieldsOf items = before ++ f :: after ∧
        (∀ g ∈ before, ∃ tag, fieldTag settings g.attributes = .ok tag) ∧
        fieldTag settings f.attributes = .error e := by
  rw [lowerFile_eq_error_iff, tagErrorOf?, ← Item.fieldsOf, List.findSome?_eq_some_iff]
  simp only [StructField.tagError?_eq_some_iff, StructField.tagError?_eq_none_iff]
  constructor
  · rintro ⟨before, f, after, split, wrong, right⟩
    exact ⟨before, f, after, split, right, wrong⟩
  · rintro ⟨before, f, after, split, right, wrong⟩
    exact ⟨before, f, after, split, wrong, right⟩

/-- A file fails if and only if the tag of some field is wrong. -/
theorem exists_lowerFile_eq_error_iff {items : List Item} :
    (∃ e, lowerFile settings items = .error e) ↔
      ∃ f ∈ Item.fieldsOf items, ∃ e, fieldTag settings f.attributes = .error e := by
  simp only [lowerFile_eq_error_iff, ← StructField.tagError?_eq_some_iff,
    ← Option.isSome_iff_exists]
  exact List.findSome?_isSome_iff

/-- A file that is lowered keeps its structs in order, and their fields with their tags. -/
theorem loweredTo_of_lowerFile {items : List Item} {unit : SourceUnit}
    (done : lowerFile settings items = .ok unit) :
    unit.package = settings.package ∧
      List.Forall₂ (StructItem.LoweredTo settings) (Item.structsOf items) unit.structs := by
  have lowered := lowerFile_spec settings items
  cases wrong : tagErrorOf? settings (Item.structsOf items) with
  | some e =>
      rw [wrong] at lowered
      rw [lowered] at done
      cases done
  | none =>
      rw [wrong] at lowered
      obtain ⟨unit', done', package, structs⟩ := lowered
      obtain rfl := Except.ok.inj (done.symm.trans done')
      refine ⟨package, ?_⟩
      rw [structs, List.forall₂_map_right_iff, List.forall₂_same]
      intro s hs
      refine ⟨rfl, ?_⟩
      rw [StructItem.named, List.forall₂_map_right_iff, List.forall₂_same]
      intro f hf
      exact StructField.group_loweredTo
        (List.findSome?_eq_none_iff.1 wrong f (List.mem_flatMap.2 ⟨s, hs, hf⟩))

/-- The tag of a field is decided by its attributes of the name that the settings give, which are
those whose path is that single identifier, wherever they stand.  None means that there is no tag.  The first has to be one string, and else gives the
error even if others follow.  A second is an error whatever it says.  A file fails if and only if a
field of one of its structs does, at any depth of modules, and with the error of the first such
field.  If it does not fail, the structs are there in order, with all of their fields in order and
each with its own tag. -/
theorem lowerFile_decided_by_tags (settings : Settings) :
    (∀ a : Attribute, a.isNamed settings.tagAttribute = true ↔
      ∃ id, a.rooted = false ∧ a.path = [id] ∧ id.text = settings.tagAttribute) ∧
    (∀ attributes r, fieldTag settings attributes = r ↔
      SelectsTag settings (attributes.filter (·.isNamed settings.tagAttribute)) r) ∧
    ∀ items : List Item,
      ((∃ e, lowerFile settings items = .error e) ↔
        ∃ f ∈ Item.fieldsOf items, ∃ e, fieldTag settings f.attributes = .error e) ∧
      (∀ e, lowerFile settings items = .error e ↔
        ∃ before f after, Item.fieldsOf items = before ++ f :: after ∧
          (∀ g ∈ before, ∃ tag, fieldTag settings g.attributes = .ok tag) ∧
          fieldTag settings f.attributes = .error e) ∧
      ∀ unit, lowerFile settings items = .ok unit →
        unit.package = settings.package ∧
          List.Forall₂ (StructItem.LoweredTo settings) (Item.structsOf items) unit.structs := by
  refine ⟨fun _ => Attribute.isNamed_iff, fun _ _ => fieldTag_eq_iff, fun items => ?_⟩
  exact ⟨exists_lowerFile_eq_error_iff, fun _ => lowerFile_eq_error_iff_first,
    fun _ => loweredTo_of_lowerFile⟩

/-- A field with a tag.  The attributes around it have longer paths or another name. -/
def taggedField : StructField :=
  longField "key" [docAttribute, ⟨true, [.plain "objectbox"], .none⟩,
    objectboxAttribute (.list [.literal (.string "\"unique\"" "unique")]),
    ⟨false, [.plain "other", .plain "objectbox"], .none⟩]

/-- A field with two tag attributes.  The second one is bare. -/
def twiceTaggedField : StructField :=
  longField "at" [objectboxAttribute (.list [.literal (.string "\"date\"" "date")]),
    docAttribute, objectboxAttribute .none]

/-- Only the attributes of the name count.  The second of them is an error, and in a file it comes
before the error of the struct behind the module.  Without it the tag stays with its field. -/
theorem lowerFile_decided_by_tags_twiceTagged :
    let note (fields : List StructField) := Item.struct (.plain "Note") fields
    fieldTag .default taggedField.attributes = .ok (some "unique") ∧
      lowerFile .default [.module (.plain "inner") [note [taggedField, twiceTaggedField]],
          bareTagged] =
        .error (.frontend "duplicate #[objectbox] attribute") ∧
      ∃ unit, lowerFile .default [note [longField "id" [], taggedField]] = .ok unit ∧
        List.Forall₂ (StructItem.LoweredTo .default)
          [(.plain "Note", [longField "id" [], taggedField])] unit.structs := by
  intro note
  obtain ⟨-, tags, files⟩ := lowerFile_decided_by_tags .default
  have tagged : fieldTag .default taggedField.attributes = .ok (some "unique") :=
    (tags _ _).2 (.present ⟨_, rfl⟩)
  have twice : fieldTag .default twiceTaggedField.attributes =
      .error (.frontend "duplicate #[objectbox] attribute") :=
    (tags _ _).2 (.duplicate ⟨_, rfl⟩)
  have lowered : lowerFile .default [note [longField "id" [], taggedField]] = .ok _ := rfl
  refine ⟨tagged, ((files _).2.1 _).2 ⟨[taggedField], twiceTaggedField, _, rfl, ?_, twice⟩, _,
    lowered, ((files _).2.2 _ lowered).2⟩
  exact List.forall_mem_singleton.2 ⟨_, tagged⟩

end EntityBinding.Source
