import EntityBinding.Discovery.Load
import EntityBinding.Proofs.Identity

/-!
# A load builds the structs of a source unit

The specifications of a source unit are those of its groups, in order (`SourceUnit.specs`),
and its structs are the specifications whose type is a struct (`SourceUnit.structs`).  A walk
holds the name of the last type that it has entered, but a struct comes right behind its own
name, so the name that is held plays no part between two specifications
(`Walk.visitSpec_of_struct`, `Walk.visitSpec_of_other`).

So a load comes to what `buildAll` gives, which builds structs one after the other up to the
first that fails and knows nothing of a walk (`Binding.load_eq_buildAll`).  What it adds to a
binding depends on the structs alone (`load_appends_builds`).
-/

namespace EntityBinding

/-! ## Structs -/

/-- A struct with its name. -/
abbrev NamedStruct := String × List FieldGroup

/-- The outcome of the build of a struct. -/
def NamedStruct.build (s : NamedStruct) : Except DiscoveryError Entity :=
  (buildEntity s.1 s.2).result

/-- The struct of a specification, if it names one. -/
def Spec.struct? : Spec → Option NamedStruct
  | .type name (.struct fields) => some (name, fields)
  | _ => none

/-- The specifications of a declaration. -/
def Decl.specs : Decl → List Spec
  | .group specs => specs
  | .function _ => []

/-- The specifications of a source unit, in order. -/
def SourceUnit.specs (u : SourceUnit) : List Spec := u.decls.flatMap Decl.specs

/-- The structs of a source unit with their names, in order. -/
def SourceUnit.structs (u : SourceUnit) : List NamedStruct := u.specs.filterMap Spec.struct?

/-- The entities of some structs up to the first whose build fails, and the error of that
build. -/
def buildAll : List NamedStruct → List Entity × Option DiscoveryError
  | [] => ([], none)
  | s :: rest =>
      match s.build with
      | .ok e => (e :: (buildAll rest).1, (buildAll rest).2)
      | .error e => ([], some e)

theorem NamedStruct.name_of_build {s : NamedStruct} {e : Entity} (h : s.build = .ok e) :
    e.name = s.1 := by
  obtain ⟨-, i, finishes⟩ := buildEntity_ok h
  rw [finishes.eq]

theorem NamedStruct.build_ne_unnamed (s : NamedStruct) : s.build ≠ .error .unnamedStruct := by
  intro h
  rcases buildEntity_error h with field | ⟨level, -⟩
  · cases field
  · cases level

/-- The entities are built from as many structs, and the struct behind those is the one whose
build fails. -/
theorem buildAll_spec (structs : List NamedStruct) :
    List.Forall₂ (fun s e => s.build = .ok e ∧ e.name = s.1)
        (structs.take (buildAll structs).1.length) (buildAll structs).1 ∧
      match structs.drop (buildAll structs).1.length with
      | [] => (buildAll structs).2 = none
      | s :: _ => ∃ err, s.build = .error err ∧ (buildAll structs).2 = some err := by
  induction structs with
  | nil => exact ⟨.nil, rfl⟩
  | cons s rest ih =>
      rw [buildAll]
      cases hb : s.build with
      | error err => exact ⟨.nil, err, hb, rfl⟩
      | ok e => exact ⟨.cons ⟨hb, s.name_of_build hb⟩ ih.1, ih.2⟩

theorem buildAll_eq_none {structs : List NamedStruct} :
    (buildAll structs).2 = none ↔ ∀ s ∈ structs, ∃ e, s.build = .ok e := by
  induction structs with
  | nil => simp [buildAll]
  | cons s rest ih =>
      rw [buildAll, List.forall_mem_cons]
      cases hb : s.build with
      | error err => simp
      | ok e => simp [ih]

/-- The error is that of a build, so it is not that of a struct without a name. -/
theorem buildAll_ne_unnamed (structs : List NamedStruct) :
    (buildAll structs).2 ≠ some .unnamedStruct := by
  intro h
  have ended := (buildAll_spec structs).2
  split at ended
  next =>
    rw [h] at ended
    cases ended
  next s _ _ =>
    obtain ⟨err, failed, same⟩ := ended
    rw [h] at same
    cases same
    exact s.build_ne_unnamed failed

/-! ## Walks -/

namespace Walk

/-- A struct is built under its own name, whatever name the walk holds. -/
theorem visitSpec_of_struct (w : Walk) {s : Spec} {named : NamedStruct}
    (h : s.struct? = some named) :
    match named.build with
    | .ok e => (w.visitSpec s).binding = w.binding.push e ∧ (w.visitSpec s).failure = w.failure
    | .error e => (w.visitSpec s).binding = w.binding ∧ (w.visitSpec s).failure = some e := by
  cases s with
  | value => cases h
  | package => cases h
  | type name type =>
      cases type with
      | struct fields =>
          cases h
          rw [NamedStruct.build]
          simp only [visitSpec, visitType, visitStruct]
          cases (buildEntity name fields).result with
          | ok e => exact ⟨rfl, rfl⟩
          | error e => exact ⟨rfl, rfl⟩
      | _ => cases h

/-- A specification that names no struct changes nothing but the name that the walk holds. -/
theorem visitSpec_of_other (w : Walk) {s : Spec} (h : s.struct? = none) :
    (w.visitSpec s).binding = w.binding ∧ (w.visitSpec s).failure = w.failure := by
  cases s with
  | value => exact ⟨rfl, rfl⟩
  | package => exact ⟨rfl, rfl⟩
  | type name type =>
      cases type with
      | struct fields => cases h
      | _ => exact ⟨rfl, rfl⟩

/-- A walk enters the specifications that it comes to one by one, and adds what the build of
their structs gives. -/
theorem visitAll_specs :
    ∀ (specs : List Spec) {w : Walk}, w.failure = none →
      (visitAll visitSpec w specs).binding =
          { w.binding with
            entities := w.binding.entities ++ (buildAll (specs.filterMap Spec.struct?)).1 } ∧
        (visitAll visitSpec w specs).failure = (buildAll (specs.filterMap Spec.struct?)).2
  | [], w, running => by
      rw [List.filterMap_nil, buildAll, List.append_nil]
      exact ⟨rfl, running⟩
  | s :: rest, w, running => by
      rw [visitAll]
      cases hs : s.struct? with
      | none =>
          obtain ⟨binding, failure⟩ := w.visitSpec_of_other hs
          rw [running] at failure
          rw [failure, List.filterMap_cons_none hs, ← binding]
          exact visitAll_specs rest failure
      | some named =>
          have step := w.visitSpec_of_struct hs
          rw [List.filterMap_cons_some hs, buildAll]
          cases hb : named.build with
          | error e =>
              rw [hb] at step
              obtain ⟨binding, failure⟩ := step
              rw [failure, binding, List.append_nil]
              exact ⟨rfl, failure⟩
          | ok e =>
              rw [hb] at step
              obtain ⟨binding, failure⟩ := step
              rw [running] at failure
              rw [failure]
              obtain ⟨after, result⟩ := visitAll_specs rest failure
              rw [binding, Binding.push, List.append_assoc] at after
              exact ⟨after, result⟩

/-- A walk through some nodes and more goes on to the others if it has not failed. -/
theorem visitAll_append {α : Type} (visit : Walk → α → Walk) (ys : List α) :
    ∀ (xs : List α) {w : Walk}, w.failure = none →
      visitAll visit w (xs ++ ys) =
        match (visitAll visit w xs).failure with
        | some _ => visitAll visit w xs
        | none => visitAll visit (visitAll visit w xs) ys
  | [], w, running => by
      rw [List.nil_append, visitAll, running]
  | x :: rest, w, running => by
      rw [List.cons_append, visitAll, visitAll]
      cases failure : (visit w x).failure with
      | some e => simp only [failure]
      | none => exact visitAll_append visit ys rest failure

/-- A walk through declarations is one through their specifications. -/
theorem visitAll_decls :
    ∀ (decls : List Decl) {w : Walk}, w.failure = none →
      visitAll visitDecl w decls = visitAll visitSpec w (decls.flatMap Decl.specs)
  | [], w, _ => rfl
  | d :: rest, w, running => by
      have entered : w.visitDecl d = visitAll visitSpec w d.specs := by
        cases d with
        | group specs => rfl
        | function name => rfl
      rw [visitAll, List.flatMap_cons, visitAll_append visitSpec _ d.specs running, entered]
      cases failure : (visitAll visitSpec w d.specs).failure with
      | some e => rfl
      | none => exact visitAll_decls rest failure

end Walk

/-! ## Loads -/

/-- The walk through a source unit after some specifications, or after the first of them that
fails. -/
def Binding.walk (b : Binding) (u : SourceUnit) (n : Nat) : Walk :=
  Walk.visitAll Walk.visitSpec (.start { b with package := u.package }) (u.specs.take n)

/-- A walk goes on to the next specification, if there is one, unless it has failed. -/
theorem Binding.walk_succ (b : Binding) (u : SourceUnit) (n : Nat) :
    b.walk u (n + 1) =
      match (b.walk u n).failure, u.specs[n]? with
      | none, some s => (b.walk u n).visitSpec s
      | _, _ => b.walk u n := by
  simp only [walk]
  rw [List.take_add_one]
  cases next : u.specs[n]? with
  | none =>
      rw [Option.toList_none, List.append_nil]
      cases (Walk.visitAll Walk.visitSpec (.start { b with package := u.package })
        (u.specs.take n)).failure with
      | none => rfl
      | some e => rfl
  | some s =>
      rw [Option.toList_some, Walk.visitAll_append Walk.visitSpec [s] _ rfl]
      generalize Walk.visitAll Walk.visitSpec (.start { b with package := u.package })
        (u.specs.take n) = w
      cases w.failure with
      | some e => rfl
      | none =>
          simp only [Walk.visitAll]
          cases (w.visitSpec s).failure with
          | none => rfl
          | some e => rfl

/-- A load is the walk through all specifications of a source unit. -/
theorem Binding.load_eq_walk (b : Binding) (u : SourceUnit) :
    (b.load u).binding = (b.walk u u.specs.length).binding ∧
      (b.load u).failure = (b.walk u u.specs.length).failure := by
  rw [load, walk, List.take_length, SourceUnit.specs, ← Walk.visitAll_decls u.decls rfl]
  cases (Walk.visitAll Walk.visitDecl (.start { b with package := u.package }) u.decls).failure with
  | none => exact ⟨rfl, rfl⟩
  | some e => exact ⟨rfl, rfl⟩

/-- A load sets the package, adds the entities of the structs up to the first whose build fails,
and fails with the error of that build. -/
theorem Binding.load_eq_buildAll (b : Binding) (u : SourceUnit) :
    (b.load u).binding = ⟨u.package, b.entities ++ (buildAll u.structs).1⟩ ∧
      (b.load u).failure = (buildAll u.structs).2 := by
  obtain ⟨binding, failure⟩ := b.load_eq_walk u
  rw [binding, failure, walk, List.take_length]
  exact Walk.visitAll_specs u.specs rfl

/-- A load sets the package and keeps all entities.  It adds the entities that the structs are
built to, each under the name of its own specification, up to the first build that fails, and
fails with the error of that build.  What is added and how the load ends is the same for all
bindings. -/
theorem load_appends_builds (u : SourceUnit) :
    ∃ built failure,
      List.Forall₂ (fun s e => s.build = .ok e ∧ e.name = s.1)
        (u.structs.take built.length) built ∧
      (match u.structs.drop built.length with
        | [] => failure = none
        | s :: _ => ∃ err, s.build = .error err ∧ failure = some err) ∧
      (failure = none ↔ ∀ s ∈ u.structs, ∃ e, s.build = .ok e) ∧
      failure ≠ some .unnamedStruct ∧
      ∀ b : Binding, (b.load u).binding = ⟨u.package, b.entities ++ built⟩ ∧
        (b.load u).failure = failure := by
  obtain ⟨built, ended⟩ := buildAll_spec u.structs
  exact ⟨_, _, built, ended, buildAll_eq_none, buildAll_ne_unnamed u.structs,
    fun b => b.load_eq_buildAll u⟩

-- The name of the alias is not held until the struct.
example : ((Binding.new "shop").load ⟨"depot", [.group [.type "Code" (.ident "string"),
    .type "Item" (.struct [⟨["ID"], .ident "uint64", none⟩])]]⟩).binding.entities.map Entity.name =
      ["Item"] := by
  decide +kernel

end EntityBinding
