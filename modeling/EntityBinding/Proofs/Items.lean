import EntityBinding.Proofs.Load
import EntityBinding.Source.Discover

/-!
# A file is what its structs are

The structs of a file are those at its top and in its modules, at any depth, in the order in
which they are written (`Item.structsOf`).  Lowering keeps them in order and adds no struct,
since no type is lowered to one (`struct?_lower`), and it fails with the error of the first of
their fields whose tag is wrong (`Item.lowerAll_spec`).

So what is discovered in a file is decided by its structs, and everything else in it may come and
go (`Rearranged`).  `discoverItems_decided_by_structs` says so for the items of a file and for the
texts that are read as those items.
-/

namespace EntityBinding.Source

/-- What is discovered in the items of a file. -/
def discoverItems (settings : Settings) (items : List Item) : Except DiscoveryError Binding :=
  match lowerFile settings items with
  | .ok unit => (discover unit).result
  | .error e => .error e

/-- The binding of a source text is what is discovered in its items. -/
theorem discoverSource_of_parseFile? {text : String} {items : List Item} (settings : Settings)
    (read : parseFile? text = some items) :
    discoverSource settings text = (discoverItems settings items).mapError .discovery := by
  simp only [discoverSource, readSource, read, discoverItems]
  cases lowerFile settings items with
  | error e => rfl
  | ok unit =>
      dsimp only
      cases (discover unit).result with
      | error e => rfl
      | ok b => rfl

/-! ## Structs of items -/

/-- A struct as it is written. -/
abbrev StructItem := Ident × List StructField

mutual

/-- The structs of an item, those in the modules within included. -/
def Item.structs : Item → List StructItem
  | .struct name fields => [(name, fields)]
  | .module _ items => Item.structsOf items
  | .alias _ _ | .constant _ _ | .imports _ | .function _ | .other => []

/-- The structs of some items, in order. -/
def Item.structsOf : List Item → List StructItem
  | [] => []
  | item :: rest => item.structs ++ Item.structsOf rest

end

/-- The tag of a field, which has none if it is wrong. -/
def StructField.tag (settings : Settings) (f : StructField) : Option String :=
  match fieldTag settings f.attributes with
  | .ok tag => tag
  | .error _ => none

/-- The error of the tag of a field, if it is wrong. -/
def StructField.tagError? (settings : Settings) (f : StructField) : Option DiscoveryError :=
  match fieldTag settings f.attributes with
  | .ok _ => none
  | .error e => some e

/-- The field group of a field. -/
def StructField.group (settings : Settings) (f : StructField) : FieldGroup :=
  ⟨f.name.toList.map Ident.name, f.type.lower, f.tag settings⟩

/-- The struct that a struct as it is written stands for. -/
def StructItem.named (settings : Settings) (s : StructItem) : NamedStruct :=
  (s.1.name, s.2.map (StructField.group settings))

/-- The error of the first field of some structs whose tag is wrong. -/
def tagErrorOf? (settings : Settings) (structs : List StructItem) : Option DiscoveryError :=
  (structs.flatMap Prod.snd).findSome? (StructField.tagError? settings)

/-! ## Types -/

theorem struct?_lowerPath (name : String) (rooted : Bool) (parents : List Segment)
    (last : Segment) : (Spec.type name (lowerPath rooted parents last)).struct? = none := by
  obtain ⟨id, arguments⟩ := last
  simp only [lowerPath]
  split
  · split
    · rfl
    · rfl
    · rfl
    · rfl
    · split
      · rfl
      · rfl
  · split
    · rfl
    · rfl

/-- No type is lowered to a struct. -/
theorem struct?_lower (name : String) :
    ∀ t : Ty, (Spec.type name t.lower).struct? = none
  | .path rooted parents last => struct?_lowerPath name rooted parents last
  | .reference _ _ elem => struct?_lower name elem
  | .pointer _ _ => rfl
  | .slice _ => rfl
  | .array _ _ => rfl
  | .paren elem => struct?_lower name elem
  | .group elem => struct?_lower name elem
  | .bound _ => rfl
  | .other _ => rfl

/-! ## Lowering -/

/-- The field groups of some fields, or the error of the first whose tag is wrong. -/
theorem lowerFields_eq (settings : Settings) :
    ∀ fields : List StructField, lowerFields settings fields =
      match fields.findSome? (StructField.tagError? settings) with
      | some e => .error e
      | none => .ok (fields.map (StructField.group settings))
  | [] => rfl
  | f :: rest => by
      rw [lowerFields, StructField.lower, lowerFields_eq settings rest, List.findSome?_cons,
        List.map_cons, StructField.group, StructField.tag, StructField.tagError?]
      cases fieldTag settings f.attributes with
      | error e => rfl
      | ok tag =>
          cases rest.findSome? (StructField.tagError? settings) with
          | some e => rfl
          | none => rfl

/-- `Lowers settings structs r` says that `r` is what items with the structs `structs` are
lowered to: the error of the first field whose tag is wrong, or declarations of those structs
and no other. -/
def Lowers (settings : Settings) (structs : List StructItem)
    (r : Except DiscoveryError (List Decl)) : Prop :=
  match tagErrorOf? settings structs with
  | some e => r = .error e
  | none => ∃ decls, r = .ok decls ∧
      (decls.flatMap Decl.specs).filterMap Spec.struct? =
        structs.map (StructItem.named settings)

theorem lowers_nil {settings : Settings} {decls : List Decl}
    (none : (decls.flatMap Decl.specs).filterMap Spec.struct? = []) :
    Lowers settings [] (.ok decls) :=
  ⟨decls, rfl, none⟩

/-- Items that are lowered one after the other. -/
theorem Lowers.append {settings : Settings} {xs ys : List StructItem}
    {r r' : Except DiscoveryError (List Decl)} (hx : Lowers settings xs r)
    (hy : Lowers settings ys r') :
    Lowers settings (xs ++ ys) (do
      let decls ← r
      let more ← r'
      return decls ++ more) := by
  have split : tagErrorOf? settings (xs ++ ys) =
      (tagErrorOf? settings xs).or (tagErrorOf? settings ys) := by
    rw [tagErrorOf?, List.flatMap_append, List.findSome?_append]
    rfl
  rw [Lowers] at hx hy ⊢
  rw [split]
  cases wrong : tagErrorOf? settings xs with
  | some e =>
      rw [wrong] at hx
      rw [hx]
      rfl
  | none =>
      rw [wrong] at hx
      obtain ⟨decls, rfl, structs⟩ := hx
      cases wrong' : tagErrorOf? settings ys with
      | some e =>
          rw [wrong'] at hy
          rw [hy]
          rfl
      | none =>
          rw [wrong'] at hy
          obtain ⟨more, rfl, moreStructs⟩ := hy
          refine ⟨decls ++ more, rfl, ?_⟩
          rw [List.flatMap_append, List.filterMap_append, structs, moreStructs, List.map_append]

mutual

/-- An item is lowered to the declarations of its structs. -/
theorem Item.lower_spec (settings : Settings) :
    ∀ item : Item, Lowers settings item.structs (item.lower settings)
  | .struct name fields => by
      rw [Lowers, Item.structs, Item.lower, lowerFields_eq, tagErrorOf?, List.flatMap_singleton]
      cases fields.findSome? (StructField.tagError? settings) with
      | some e => rfl
      | none => exact ⟨_, rfl, rfl⟩
  | .alias name type => by
      rw [Item.structs, Item.lower]
      refine lowers_nil ?_
      rw [List.flatMap_singleton, Decl.specs, List.filterMap_cons_none (struct?_lower name.name type)]
      rfl
  | .constant _ _ => lowers_nil rfl
  | .imports _ => lowers_nil rfl
  | .function _ => lowers_nil rfl
  | .module _ items => by
      rw [Item.structs, Item.lower]
      exact Item.lowerAll_spec settings items
  | .other => lowers_nil rfl

/-- Items are lowered to the declarations of their structs, in order. -/
theorem Item.lowerAll_spec (settings : Settings) :
    ∀ items : List Item, Lowers settings (Item.structsOf items) (Item.lowerAll settings items)
  | [] => lowers_nil rfl
  | item :: rest => by
      rw [Item.structsOf, Item.lowerAll]
      exact (Item.lower_spec settings item).append (Item.lowerAll_spec settings rest)

end

/-- A file is lowered to its structs, or fails with the error of the first field whose tag is
wrong. -/
theorem lowerFile_spec (settings : Settings) (items : List Item) :
    match tagErrorOf? settings (Item.structsOf items) with
    | some e => lowerFile settings items = .error e
    | none => ∃ unit, lowerFile settings items = .ok unit ∧ unit.package = settings.package ∧
        unit.structs = (Item.structsOf items).map (StructItem.named settings) := by
  have lowered := Item.lowerAll_spec settings items
  rw [Lowers] at lowered
  rw [lowerFile]
  cases wrong : tagErrorOf? settings (Item.structsOf items) with
  | some e =>
      rw [wrong] at lowered
      rw [lowered]
      rfl
  | none =>
      rw [wrong] at lowered
      obtain ⟨decls, same, structs⟩ := lowered
      rw [same]
      exact ⟨⟨settings.package, decls⟩, rfl, rfl, structs⟩

/-! ## Discovery -/

/-- The builds of some structs in order, as those up to the first that fails. -/
theorem mapM_build (structs : List NamedStruct) :
    structs.mapM NamedStruct.build =
      match (buildAll structs).2 with
      | some e => .error e
      | none => .ok (buildAll structs).1 := by
  induction structs with
  | nil => rfl
  | cons s rest ih =>
      rw [List.mapM_cons, ih, buildAll]
      cases s.build with
      | error e => rfl
      | ok e =>
          cases (buildAll rest).2 with
          | some e => rfl
          | none => rfl

/-- The result of a discovery is a package with what the structs of a source unit are built
to. -/
theorem discover_result (u : SourceUnit) :
    (discover u).result = (u.structs.mapM NamedStruct.build).map (Binding.mk u.package) := by
  obtain ⟨binding, failure⟩ := (Binding.new "").load_eq_buildAll u
  rw [mapM_build, discover]
  simp only [binding, failure]
  cases (buildAll u.structs).2 with
  | some e => rfl
  | none => rfl

/-- What is discovered in a file is decided by its structs.  The first of their fields whose tag
is wrong gives the error, and if there is none, the structs are built in order. -/
theorem discoverItems_eq (settings : Settings) (items : List Item) :
    discoverItems settings items =
      match tagErrorOf? settings (Item.structsOf items) with
      | some e => .error e
      | none =>
          (((Item.structsOf items).map (StructItem.named settings)).mapM NamedStruct.build).map
            (Binding.mk settings.package) := by
  have lowered := lowerFile_spec settings items
  rw [discoverItems]
  cases wrong : tagErrorOf? settings (Item.structsOf items) with
  | some e =>
      rw [wrong] at lowered
      rw [lowered]
  | none =>
      rw [wrong] at lowered
      obtain ⟨unit, done, package, structs⟩ := lowered
      rw [done, ← structs, ← package]
      exact discover_result unit

theorem StructField.frontend_of_tagError? {settings : Settings} {f : StructField}
    {e : DiscoveryError} (h : f.tagError? settings = some e) : ∃ text, e = .frontend text := by
  rw [tagError?, fieldTag] at h
  cases found : findTag settings.tagAttribute none f.attributes with
  | ok tag =>
      simp only [found] at h
      cases h
  | error wrong =>
      simp only [found] at h
      cases h
      exact ⟨_, rfl⟩

theorem discoverItems_ne_unnamed (settings : Settings) (items : List Item) :
    discoverItems settings items ≠ .error .unnamedStruct := by
  rw [discoverItems_eq]
  cases wrong : tagErrorOf? settings (Item.structsOf items) with
  | some e =>
      obtain ⟨f, -, hf⟩ := List.exists_of_findSome?_eq_some wrong
      obtain ⟨text, rfl⟩ := StructField.frontend_of_tagError? hf
      intro h
      cases h
  | none =>
      have failed := buildAll_ne_unnamed ((Item.structsOf items).map (StructItem.named settings))
      rw [mapM_build]
      cases hb : (buildAll ((Item.structsOf items).map (StructItem.named settings))).2 with
      | none =>
          intro h
          cases h
      | some e =>
          intro h
          cases h
          exact failed hb

/-! ## Everything else -/

/-- Whether an item is neither a struct nor a module in place. -/
def Item.isPlain : Item → Bool
  | .struct _ _ | .module _ _ => false
  | .alias _ _ | .constant _ _ | .imports _ | .function _ | .other => true

/-- Items that are the same up to the modules around them and up to items that are neither
structs nor modules. -/
inductive Rearranged : List Item → List Item → Prop where
  /-- Some items in a row are put into a module. -/
  | wrap (name : Ident) (before run after : List Item) :
      Rearranged (before ++ run ++ after) (before ++ .module name run :: after)
  /-- An item is added that is neither a struct nor a module. -/
  | insert {item : Item} (plain : item.isPlain = true) (before after : List Item) :
      Rearranged (before ++ after) (before ++ item :: after)
  /-- The items of a module are rearranged. -/
  | inside {items items' : List Item} (name : Ident) (before after : List Item) :
      Rearranged items items' →
      Rearranged (before ++ .module name items :: after) (before ++ .module name items' :: after)
  /-- Nothing is done. -/
  | refl (items : List Item) : Rearranged items items
  /-- Something is undone: items leave a module, or an item is deleted. -/
  | symm {items items' : List Item} : Rearranged items items' → Rearranged items' items
  /-- One thing is done after another, as when an item is moved. -/
  | trans {items items' items'' : List Item} :
      Rearranged items items' → Rearranged items' items'' → Rearranged items items''

theorem Item.structsOf_append (ys : List Item) :
    ∀ xs : List Item,
      Item.structsOf (xs ++ ys) = Item.structsOf xs ++ Item.structsOf ys
  | [] => rfl
  | x :: rest => by
      rw [List.cons_append, Item.structsOf, Item.structsOf, Item.structsOf_append ys rest,
        List.append_assoc]

theorem Item.structs_of_isPlain {item : Item} (plain : item.isPlain = true) :
    item.structs = [] := by
  cases item with
  | struct => cases plain
  | module => cases plain
  | _ => rfl

/-- Rearranged items have the same structs in the same order. -/
theorem Rearranged.structsOf_eq {items items' : List Item} (h : Rearranged items items') :
    Item.structsOf items = Item.structsOf items' := by
  induction h with
  | wrap name before run after =>
      simp only [Item.structsOf_append, Item.structsOf, Item.structs, List.append_assoc]
  | insert plain before after =>
      simp only [Item.structsOf_append, Item.structsOf, Item.structs_of_isPlain plain,
        List.nil_append]
  | inside name before after _ ih =>
      simp only [Item.structsOf_append, Item.structsOf, Item.structs, ih]
  | refl items => rfl
  | symm _ ih => exact ih.symm
  | trans _ _ ih ih' => exact ih.trans ih'

/-- What is discovered in a file is decided by its structs.  The first of their fields whose tag
is wrong gives the error.  If there is none, then each struct is built to an entity of its own
name, in order, and the first build that fails gives the error.  So files with the same structs
come to the same, those in particular that differ in modules and in items of other kinds.  No
struct lacks a name.  A source text that is read as the items comes to what they come to. -/
theorem discoverItems_decided_by_structs (settings : Settings) (items : List Item) :
    (∀ before f after e, (Item.structsOf items).flatMap Prod.snd = before ++ f :: after →
      (∀ g ∈ before, g.tagError? settings = none) → f.tagError? settings = some e →
      discoverItems settings items = .error e ∧ ∃ text, e = .frontend text) ∧
    ((∀ f ∈ (Item.structsOf items).flatMap Prod.snd, f.tagError? settings = none) →
      discoverItems settings items =
        (((Item.structsOf items).map (StructItem.named settings)).mapM NamedStruct.build).map
          (Binding.mk settings.package)) ∧
    (∀ items', Item.structsOf items' = Item.structsOf items →
      discoverItems settings items' = discoverItems settings items) ∧
    (∀ items', Rearranged items items' →
      discoverItems settings items' = discoverItems settings items) ∧
    discoverItems settings items ≠ .error .unnamedStruct ∧
    ∀ text, parseFile? text = some items →
      discoverSource settings text = (discoverItems settings items).mapError .discovery := by
  have sameStructs : ∀ items', Item.structsOf items' = Item.structsOf items →
      discoverItems settings items' = discoverItems settings items := by
    intro items' same
    rw [discoverItems_eq, discoverItems_eq, same]
  refine ⟨?_, ?_, sameStructs, ?_, discoverItems_ne_unnamed settings items,
    fun _ => discoverSource_of_parseFile? settings⟩
  · intro before f after e split right wrong
    have first : tagErrorOf? settings (Item.structsOf items) = some e := by
      rw [tagErrorOf?, split]
      exact List.findSome?_eq_some_iff.2 ⟨before, f, after, rfl, wrong, right⟩
    rw [discoverItems_eq, first]
    exact ⟨rfl, StructField.frontend_of_tagError? wrong⟩
  · intro right
    have noError : tagErrorOf? settings (Item.structsOf items) = none :=
      List.findSome?_eq_none_iff.2 right
    rw [discoverItems_eq, noError]
  · intro items' rearranged
    exact sameStructs items' rearranged.structsOf_eq.symm

/-- A field of the type `u64`. -/
def longField (name : String) (attributes : List Attribute) : StructField :=
  ⟨attributes, some (.plain name), .path false [] ⟨.plain "u64", .none⟩⟩

/-- The attribute `objectbox` of the default settings. -/
def objectboxAttribute (argument : AttributeArgument) : Attribute :=
  ⟨false, [.plain "objectbox"], argument⟩

/-- The attribute `doc` with a value. -/
def docAttribute : Attribute := ⟨false, [.plain "doc"], .assigned⟩

/-- A struct whose second field has a bare tag attribute between two others. -/
def bareTagged : Item :=
  .struct (.plain "Order") [
    longField "id" [docAttribute, objectboxAttribute (.list [.literal (.string "\"id\"" "id")])],
    longField "at" [docAttribute, objectboxAttribute .none, objectboxAttribute .assigned]]

/-- A bare tag attribute inside of a module ends the discovery of a file, although the struct before
it has no fields and cannot be built.  The same happens after other things are put into modules,
taken out of them and deleted. -/
theorem discoverItems_decided_by_structs_bareTagged :
    let empty := Item.struct (.plain "Empty") []
    let limit := Item.constant (.plain "LIMIT") (.path false [] ⟨.plain "u64", .none⟩)
    let failure : Except DiscoveryError Binding :=
      .error (.frontend "expected attribute arguments in parentheses: #[objectbox(...)]")
    NamedStruct.build ("Empty", []) = .error (.emptyEntity "Empty") ∧
      discoverItems .default [empty, limit, .module (.plain "inner") [bareTagged]] = failure ∧
      discoverItems .default [.module (.plain "outer") [empty], bareTagged] = failure := by
  intro empty limit failure
  let items := [empty, limit, .module (.plain "inner") [bareTagged]]
  obtain ⟨tagErrors, -, -, rearranged, -⟩ := discoverItems_decided_by_structs .default items
  -- The field before the bare attribute has a tag.
  obtain ⟨failed, -⟩ := tagErrors [_] _ [] _ rfl (List.forall_mem_singleton.2 rfl) rfl
  have moved : Rearranged items [.module (.plain "outer") [empty], bareTagged] :=
    .trans (.wrap (.plain "outer") [] [empty] [limit, .module (.plain "inner") [bareTagged]])
      (.trans (.symm (.insert rfl [.module (.plain "outer") [empty]]
          [.module (.plain "inner") [bareTagged]]))
        (.symm (.wrap (.plain "inner") [.module (.plain "outer") [empty]] [bareTagged] [])))
  exact ⟨rfl, failed, (rearranged _ moved).trans failed⟩

end EntityBinding.Source
