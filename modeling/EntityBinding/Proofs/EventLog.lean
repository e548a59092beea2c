import EntityBinding.Proofs.BuildLog
import EntityBinding.Proofs.Items

/-!
# The log of a discovery

A discovery tells of the structs one after the other (`BuiltLog`), up to the first whose build
fails, and of the binding behind them all (`discover_log_eq`).  So its log mirrors its outcome
(`discover_log`).
-/

namespace EntityBinding

/-- A binding is complete. -/
def LogLine.finished (b : Binding) : LogLine :=
  ⟨.debug, "discovery finished",
    [("package", .string b.package), ("entities", .number (Int.ofNat b.entities.length))]⟩

/-! ## Structs -/

/-- `BuiltLog structs entities log` says that the structs are built to the entities, and that `log`
tells of their builds one by one. -/
inductive BuiltLog : List NamedStruct → List Entity → List LogLine → Prop where
  | nil : BuiltLog [] [] []
  | cons {s : NamedStruct} {e : Entity} {structs : List NamedStruct} {entities : List Entity}
      {first log : List LogLine} (built : s.build = .ok e) (entity : EntityLog s.1 s.2 e first)
      (rest : BuiltLog structs entities log) :
      BuiltLog (s :: structs) (e :: entities) (first ++ log)

/-- The log of the builds of some structs up to the first that fails. -/
def buildLog : List NamedStruct → List LogLine
  | [] => []
  | s :: rest =>
      match s.build with
      | .ok _ => (buildEntity s.1 s.2).log ++ buildLog rest
      | .error _ => (buildEntity s.1 s.2).log

/-- The structs up to the first whose build fails, with their logs. -/
theorem buildLog_spec (structs : List NamedStruct) :
    match (buildAll structs).2 with
    | none => BuiltLog structs (buildAll structs).1 (buildLog structs)
    | some err => ∃ before s after log rest, structs = before ++ s :: after ∧
        BuiltLog before (buildAll structs).1 log ∧ s.build = .error err ∧
        FailedLog s.1 s.2 err rest ∧ buildLog structs = log ++ rest := by
  induction structs with
  | nil => exact .nil
  | cons s rest ih =>
      rw [buildAll, buildLog]
      cases hb : s.build with
      | error err =>
          exact ⟨[], s, rest, [], _, rfl, .nil, hb, buildEntity_log_of_error hb, rfl⟩
      | ok e =>
          have entity := buildEntity_log_of_ok hb
          simp only
          cases ended : (buildAll rest).2 with
          | none =>
              rw [ended] at ih
              exact .cons hb entity ih
          | some err =>
              rw [ended] at ih
              obtain ⟨before, failing, after, log, last, rfl, built, failed, told, same⟩ := ih
              have built : BuiltLog (s :: before) _ _ := .cons hb entity built
              refine ⟨s :: before, failing, after, _, last, rfl, built, failed, told, ?_⟩
              rw [same, List.append_assoc]

theorem BuiltLog.countP {structs : List NamedStruct} {entities : List Entity}
    {log : List LogLine} (told : BuiltLog structs entities log) {message : String}
    (other : message ∉ "inferred identity property" :: fieldMessages) :
    log.countP (LogLine.hasMessage message) =
      if message = "discovered entity" then structs.length else 0 := by
  induction told with
  | nil => simp
  | cons built entity rest ih =>
      rw [List.countP_append, entity.countP other, ih, List.length_cons]
      split
      · exact Nat.add_comm _ _
      · rfl

/-! ## Walks -/

namespace Walk

/-- The lines of the events of a walk. -/
def log (w : Walk) : List LogLine := w.events.map Event.line

theorem visitSpec_log_of_struct (w : Walk) {s : Spec} {named : NamedStruct}
    (h : s.struct? = some named) :
    (w.visitSpec s).log = w.log ++ (buildEntity named.1 named.2).log := by
  cases s with
  | value => cases h
  | package => cases h
  | type name type =>
      cases type with
      | struct fields =>
          cases h
          simp only [log, visitSpec, visitType, visitStruct, Outcome.log, ← List.map_append]
          cases (buildEntity name fields).result with
          | ok e => rfl
          | error e => rfl
      | _ => cases h

theorem visitSpec_log_of_other (w : Walk) {s : Spec} (h : s.struct? = none) :
    (w.visitSpec s).log = w.log := by
  cases s with
  | value => rfl
  | package => rfl
  | type name type =>
      cases type with
      | struct fields => cases h
      | _ => rfl

/-- A walk tells of the builds of the structs that it comes to. -/
theorem visitAll_log :
    ∀ (specs : List Spec) {w : Walk}, w.failure = none →
      (visitAll visitSpec w specs).log = w.log ++ buildLog (specs.filterMap Spec.struct?)
  | [], w, _ => (List.append_nil _).symm
  | s :: rest, w, running => by
      rw [visitAll]
      cases hs : s.struct? with
      | none =>
          obtain ⟨-, failure⟩ := w.visitSpec_of_other hs
          rw [running] at failure
          rw [failure, List.filterMap_cons_none hs, ← w.visitSpec_log_of_other hs]
          exact visitAll_log rest failure
      | some named =>
          have step := w.visitSpec_of_struct hs
          have told := w.visitSpec_log_of_struct hs
          rw [List.filterMap_cons_some hs, buildLog]
          cases hb : named.build with
          | error e =>
              rw [hb] at step
              rw [step.2]
              exact told
          | ok e =>
              rw [hb, running] at step
              rw [step.2]
              simp only
              rw [← List.append_assoc, ← told]
              exact visitAll_log rest step.2

end Walk

/-! ## Discoveries -/

/-- A discovery tells of the builds of the structs, and of the binding if it comes to one. -/
theorem discover_log_eq (u : SourceUnit) :
    (discover u).log = buildLog u.structs ++
      match (discover u).result with
      | .ok b => [.finished b]
      | .error _ => [] := by
  have walked : (Walk.visitAll Walk.visitDecl (.start ⟨u.package, []⟩) u.decls).log =
      buildLog u.structs := by
    rw [Walk.visitAll_decls u.decls rfl]
    exact Walk.visitAll_log u.specs rfl
  rw [← walked]
  show List.map Event.line _ = _
  simp only [discover, Binding.load, Binding.new]
  cases (Walk.visitAll Walk.visitDecl (.start ⟨u.package, []⟩) u.decls).failure with
  | some e => exact (List.append_nil _).symm
  | none => exact List.map_append

/-- The log mirrors the outcome.  If a source unit is discovered, the log tells of the struct of
each entity, in order, and of the binding at the end.  If not, it tells of the structs before the
one whose build fails and of the fields before the one that does not pass.  Then the end of a
discovery is not told of, and as many entities are as there are structs before. -/
theorem discover_log (u : SourceUnit) :
    (∀ b, (discover u).result = .ok b →
      b.package = u.package ∧ ∃ log, BuiltLog u.structs b.entities log ∧
        (discover u).log = log ++ [.finished b]) ∧
    ∀ err, (discover u).result = .error err →
      ∃ before s after built log rest, u.structs = before ++ s :: after ∧
        BuiltLog before built log ∧ s.build = .error err ∧ FailedLog s.1 s.2 err rest ∧
        (discover u).log = log ++ rest ∧
        (discover u).log.countP (LogLine.hasMessage "discovery finished") = 0 ∧
        (discover u).log.countP (LogLine.hasMessage "discovered entity") = before.length := by
  have log := discover_log_eq u
  have told := buildLog_spec u.structs
  have result := Source.discover_result u
  rw [Source.mapM_build] at result
  rw [result] at log ⊢
  cases ended : (buildAll u.structs).2 with
  | none =>
      rw [ended] at log told
      refine ⟨?_, fun err failed => nomatch failed⟩
      intro b done
      obtain rfl := Except.ok.inj done
      exact ⟨rfl, _, told, log⟩
  | some err =>
      rw [ended] at log told
      refine ⟨fun b done => (nomatch done), ?_⟩
      intro err' failed
      obtain rfl := Except.error.inj failed
      obtain ⟨before, s, after, first, rest, split, built, error, last, same⟩ := told
      have log : (discover u).log = first ++ rest := by
        rw [log, same]
        exact List.append_nil _
      refine ⟨before, s, after, _, first, rest, split, built, error, last, log, ?_, ?_⟩
      · rw [log, List.countP_append, built.countP (by decide),
          countP_hasMessage_eq_zero (by decide) last.message_mem]
        rfl
      · rw [log, List.countP_append, built.countP (by decide),
          countP_hasMessage_eq_zero (by decide) last.message_mem]
        rfl

/-- The second field asks for an index on values, and its storage name is taken.  It is warned of,
and nothing else is told behind the first field. -/
example :
    (discover ⟨"depot", [.group [.type "Item" (.struct [⟨["ID"], .ident "uint64", none⟩,
      ⟨["id"], .ident "string", some "\x60index:\"value\"\x60"⟩])]]⟩).events =
        [.propertyAccepted "Item" "ID" .long, .valueIndexRequested "id"] := by
  decide +kernel

end EntityBinding
