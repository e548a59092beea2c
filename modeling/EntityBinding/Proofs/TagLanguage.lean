import EntityBinding.Discovery.Tag
import EntityBinding.Proofs.Annotations
import Mathlib.Data.List.Forall2
import Mathlib.Data.List.Induction
import Mathlib.Data.List.TakeWhile

/-!
# The language of tags

Which tags can be read, and what they say, without the steps of the reader.

* The body of a tag is what stands between a pair of backticks or of double quotes, and the tag
  itself if it is not wrapped in one (`IsBody`).
* The words of a body are the pieces between its spaces that are not empty (`words`).
* A word is well formed if it is a bare name, or a name with a colon and a value in double
  quotes (`WellFormed`), and `Reads` is the entry it makes.
* A list of words is accepted if they are all well formed and no two of their names are equal in
  small letters (`Accepted`).  In any other list there is a first word that is not well formed,
  or that repeats the name of a word before it (`Offends`).

`parse_decided_by_words` says that a tag is read if and only if its words are accepted, that its
entries are those of the words, and that the first word that offends makes the error.
-/

namespace EntityBinding.Tag

open Text (lowercase trim isBlank isWhiteSpace)

/-! ## Bodies -/

/-- The tag is `inner` between a pair of backticks or of double quotes. -/
def Wrapped (tag inner : List Char) : Prop :=
  ∃ c, (c = '\x60' ∨ c = '"') ∧ tag = c :: (inner ++ [c])

/-- A tag loses the pair that it is wrapped in, and any other tag is its own body. -/
def IsBody (tag inner : List Char) : Prop :=
  Wrapped tag inner ∨ (inner = tag ∧ ∀ other, ¬Wrapped tag other)

theorem body_of_wrapped {tag inner : List Char} (wrapped : Wrapped tag inner) :
    body tag = inner := by
  obtain ⟨c, delimiter, rfl⟩ := wrapped
  obtain ⟨second, rest, split⟩ := List.exists_cons_of_ne_nil
    (List.append_ne_nil_of_right_ne_nil inner (List.cons_ne_nil c []))
  rw [split, body, ← split, if_pos ⟨delimiter, List.getLast?_concat⟩, List.dropLast_concat]

theorem body_of_not_wrapped {tag : List Char} (bare : ∀ inner, ¬Wrapped tag inner) :
    body tag = tag := by
  unfold body
  split
  next first second rest =>
    rw [if_neg]
    rintro ⟨delimiter, last⟩
    obtain ⟨inner, split⟩ := List.getLast?_eq_some_iff.1 last
    exact bare inner ⟨first, delimiter, by rw [split]⟩
  next => rfl

theorem isBody_body (tag : List Char) : IsBody tag (body tag) := by
  by_cases wrapped : ∃ inner, Wrapped tag inner
  · obtain ⟨inner, h⟩ := wrapped
    rw [body_of_wrapped h]
    exact .inl h
  · have bare := not_exists.1 wrapped
    exact .inr ⟨body_of_not_wrapped bare, bare⟩

/-- A tag has no other body. -/
theorem IsBody.eq_body {tag inner : List Char} (isBody : IsBody tag inner) : inner = body tag := by
  rcases isBody with wrapped | ⟨rfl, bare⟩
  · exact (body_of_wrapped wrapped).symm
  · exact (body_of_not_wrapped bare).symm

/-! ## Words -/

/-- The pieces between the spaces of a text, without those that are empty. -/
def words (cs : List Char) : List (List Char) := (cs.splitOn ' ').filter fun w => !w.isEmpty

theorem pieces_eq_splitOn (cs : List Char) : pieces cs = cs.splitOn ' ' := by
  induction cs with
  | nil => rfl
  | cons c rest ih =>
      rw [List.splitOn_cons_eq_if_modifyHead, ← ih, pieces]
      by_cases space : c = ' '
      · simp [space]
      · simp only [space, beq_iff_eq, if_false]
        cases found : pieces rest with
        | nil => exact absurd (ih.symm.trans found) (List.splitOn_ne_nil _ _)
        | cons p ps => rfl

theorem tokens_eq_words (cs : List Char) : tokens cs = words cs := by
  rw [tokens, pieces_eq_splitOn]
  rfl

/-- The name of a word, in small letters: what stands before its first colon. -/
def smallName (word : List Char) : String :=
  String.ofList (lowercase (word.takeWhile (· ≠ ':')))

/-- A word is a bare name, or a name with a value in double quotes. -/
def WellFormed (word : List Char) : Prop :=
  ':' ∉ word ∨
    ∃ name value, ':' ∉ name ∧ word = name ++ ':' :: '"' :: (value ++ ['"'])

/-- The entry of a well-formed word: its name in small letters, and its value without the white
space at the ends. -/
inductive Reads : List Char → String × String → Prop
  | bare {name : List Char} : ':' ∉ name → Reads name (String.ofList (lowercase name), "")
  | valued {name value : List Char} : ':' ∉ name →
      Reads (name ++ ':' :: '"' :: (value ++ ['"']))
        (String.ofList (lowercase name), String.ofList (trim value))

/-- Words that can stand together in a tag. -/
def Accepted (ws : List (List Char)) : Prop :=
  (∀ w ∈ ws, WellFormed w) ∧ (ws.map smallName).Nodup

/-- The error of a word that comes after some others. -/
inductive Offends (before : List (List Char)) : List Char → FieldError → Prop
  | malformed {name raw : List Char} : ':' ∉ name → (∀ value, raw ≠ '"' :: (value ++ ['"'])) →
      Offends before (name ++ ':' :: raw)
        (.invalidValue (String.ofList raw) (String.ofList name))
  | repeated {word : List Char} : WellFormed word → smallName word ∈ before.map smallName →
      Offends before word (.duplicateName (smallName word))

theorem ne_colon_of_mem {name : List Char} (noColon : ':' ∉ name) :
    ∀ c ∈ name, decide (c ≠ ':') = true := by
  intro c hc
  exact decide_eq_true (ne_of_mem_of_not_mem hc noColon)

theorem takeWhile_name {name : List Char} (rest : List Char) (noColon : ':' ∉ name) :
    (name ++ ':' :: rest).takeWhile (· ≠ ':') = name := by
  rw [List.takeWhile_append_of_pos (ne_colon_of_mem noColon)]
  simp

theorem dropWhile_name {name : List Char} (rest : List Char) (noColon : ':' ∉ name) :
    (name ++ ':' :: rest).dropWhile (· ≠ ':') = ':' :: rest := by
  rw [List.dropWhile_append_of_pos (ne_colon_of_mem noColon)]
  simp

theorem quoted?_eq_some_iff {raw value : List Char} :
    quoted? raw = some value ↔ raw = '"' :: (value ++ ['"']) := by
  constructor
  · intro h
    unfold quoted? at h
    split at h
    next rest =>
      split at h
      next last =>
        obtain ⟨inner, rfl⟩ := List.getLast?_eq_some_iff.1 last
        rw [List.dropLast_concat] at h
        rw [Option.some.inj h]
      next => cases h
    next => cases h
  · rintro rfl
    rw [quoted?, if_pos List.getLast?_concat, List.dropLast_concat]

/-! ## One word -/

theorem entry_of_reads {word : List Char} {e : String × String} (reads : Reads word e) :
    entry word = .ok e := by
  cases reads with
  | bare noColon =>
      have all := ne_colon_of_mem noColon
      rw [entry, List.dropWhile_eq_nil_iff.2 all, List.takeWhile_eq_self_iff.2 all]
  | @valued name value noColon =>
      simp only [entry, takeWhile_name _ noColon, dropWhile_name _ noColon,
        quoted?_eq_some_iff.2 rfl]

/-- A word makes one entry. -/
theorem Reads.rightUnique : Relator.RightUnique Reads := fun _ _ _ reads reads' =>
  Except.ok.inj ((entry_of_reads reads).symm.trans (entry_of_reads reads'))

theorem entry_of_malformed {name raw : List Char} (noColon : ':' ∉ name)
    (notQuoted : ∀ value, raw ≠ '"' :: (value ++ ['"'])) :
    entry (name ++ ':' :: raw) =
      .error (.invalidValue (String.ofList raw) (String.ofList name)) := by
  have none : quoted? raw = none :=
    Option.eq_none_iff_forall_ne_some.2 fun value h => notQuoted value (quoted?_eq_some_iff.1 h)
  simp only [entry, takeWhile_name _ noColon, dropWhile_name _ noColon, none]

theorem smallName_of_reads {word : List Char} {e : String × String} (reads : Reads word e) :
    e.1 = smallName word := by
  cases reads with
  | bare noColon =>
      rw [smallName, List.takeWhile_eq_self_iff.2 (ne_colon_of_mem noColon)]
  | valued noColon => rw [smallName, takeWhile_name _ noColon]

theorem wellFormed_iff {word : List Char} : WellFormed word ↔ ∃ e, Reads word e := by
  constructor
  · rintro (noColon | ⟨name, value, noColon, rfl⟩)
    · exact ⟨_, .bare noColon⟩
    · exact ⟨_, .valued noColon⟩
  · rintro ⟨e, noColon | noColon⟩
    · exact .inl noColon
    · exact .inr ⟨_, _, noColon, rfl⟩

/-- A word is well formed, or its value is not in double quotes. -/
theorem wellFormed_or_malformed (word : List Char) :
    WellFormed word ∨ ∃ name raw, word = name ++ ':' :: raw ∧ ':' ∉ name ∧
      ∀ value, raw ≠ '"' :: (value ++ ['"']) := by
  by_cases colon : ':' ∈ word
  · obtain ⟨name, raw, rfl, noColon⟩ := List.eq_append_cons_of_mem colon
    by_cases quoted : ∃ value, raw = '"' :: (value ++ ['"'])
    · obtain ⟨value, rfl⟩ := quoted
      exact .inl (.inr ⟨name, value, noColon, rfl⟩)
    · exact .inr ⟨name, raw, rfl, noColon, not_exists.1 quoted⟩
  · exact .inl (.inl colon)

/-! ## Lists of words -/

theorem collect_append (ws more : List (List Char)) :
    ∀ found, collect found (ws ++ more) = collect found ws >>= fun a => collect a more := by
  induction ws with
  | nil => exact fun _ => rfl
  | cons w rest ih =>
      intro found
      rw [List.cons_append, collect, collect]
      cases entry w with
      | error e => rfl
      | ok named =>
          dsimp only
          split
          · rfl
          · exact ih _

/-- Well-formed words with names of their own add their entries to those that were found. -/
theorem collect_of_reads {ws : List (List Char)} {es : List (String × String)}
    (reads : List.Forall₂ Reads ws es) :
    ∀ found : Annotations, ((es ++ found.entries).map Prod.fst).Nodup →
      ∃ a, collect found ws = .ok a ∧ a.entries.Perm (es ++ found.entries) := by
  induction reads with
  | nil => exact fun found _ => ⟨found, rfl, .refl _⟩
  | @cons w e ws es head tail ih =>
      obtain ⟨name, value⟩ := e
      intro found distinct
      have fresh : name ∉ found.entries.map Prod.fst := by
        simp only [List.cons_append, List.map_cons, List.nodup_cons, List.map_append,
          List.mem_append, not_or] at distinct
        exact distinct.1.2
      have grown := found.insert_perm value fresh
      have move : (es ++ (found.insert name value).entries).Perm
          ((name, value) :: es ++ found.entries) :=
        (grown.append_left es).trans List.perm_middle
      have distinct' : ((es ++ (found.insert name value).entries).map Prod.fst).Nodup :=
        (move.map Prod.fst).nodup_iff.2 distinct
      obtain ⟨a, collected, perm⟩ := ih _ distinct'
      refine ⟨a, ?_, perm.trans move⟩
      have notContained : ¬found.contains name = true := fun h =>
        fresh (Annotations.contains_iff.1 h)
      rw [collect, entry_of_reads head]
      dsimp only
      rw [if_neg notContained, collected]

theorem map_fst_of_reads {ws : List (List Char)} {es : List (String × String)}
    (reads : List.Forall₂ Reads ws es) : es.map Prod.fst = ws.map smallName := by
  induction reads with
  | nil => rfl
  | cons head tail ih => rw [List.map_cons, List.map_cons, ih, smallName_of_reads head]

theorem wellFormed_of_reads {ws : List (List Char)} {es : List (String × String)}
    (reads : List.Forall₂ Reads ws es) : ∀ w ∈ ws, WellFormed w := by
  induction reads with
  | nil => exact fun w hw => absurd hw List.not_mem_nil
  | cons head tail ih => exact List.forall_mem_cons.2 ⟨wellFormed_iff.2 ⟨_, head⟩, ih⟩

theorem exists_reads {ws : List (List Char)} (wellFormed : ∀ w ∈ ws, WellFormed w) :
    ∃ es, List.Forall₂ Reads ws es := by
  induction ws with
  | nil => exact ⟨[], .nil⟩
  | cons w rest ih =>
      obtain ⟨e, head⟩ := wellFormed_iff.1 (wellFormed w List.mem_cons_self)
      obtain ⟨es, tail⟩ := ih fun v hv => wellFormed v (List.mem_cons_of_mem w hv)
      exact ⟨e :: es, .cons head tail⟩

theorem collect_empty_of_reads {ws : List (List Char)} {es : List (String × String)}
    (reads : List.Forall₂ Reads ws es) (distinct : (es.map Prod.fst).Nodup) :
    ∃ a, collect .empty ws = .ok a ∧ a.entries.Perm es := by
  have found : es ++ Annotations.empty.entries = es := List.append_nil es
  have read := collect_of_reads reads .empty (by rwa [found])
  rwa [found] at read

/-- Accepted words are read. -/
theorem collect_of_accepted {ws : List (List Char)} (accepted : Accepted ws) :
    ∃ a es, collect .empty ws = .ok a ∧ List.Forall₂ Reads ws es ∧ a.entries.Perm es := by
  obtain ⟨es, reads⟩ := exists_reads accepted.1
  have distinct : (es.map Prod.fst).Nodup := by
    rw [map_fst_of_reads reads]
    exact accepted.2
  obtain ⟨a, collected, perm⟩ := collect_empty_of_reads reads distinct
  exact ⟨a, es, collected, reads, perm⟩

/-- The first word that offends makes the error. -/
theorem collect_of_offends {before after : List (List Char)} {word : List Char} {e : FieldError}
    (accepted : Accepted before) (offends : Offends before word e) :
    collect .empty (before ++ word :: after) = .error e := by
  obtain ⟨a, es, collected, reads, perm⟩ := collect_of_accepted accepted
  rw [collect_append, collected]
  show collect a (word :: after) = _
  rw [collect]
  cases offends with
  | malformed noColon notQuoted => rw [entry_of_malformed noColon notQuoted]
  | repeated wellFormed taken =>
      obtain ⟨⟨name, value⟩, read⟩ := wellFormed_iff.1 wellFormed
      have same : name = smallName word := smallName_of_reads read
      have contained : a.contains name = true := by
        rw [Annotations.contains_iff, (perm.map Prod.fst).mem_iff, map_fst_of_reads reads, same]
        exact taken
      rw [entry_of_reads read]
      dsimp only
      rw [if_pos contained, same]

/-- Either some words are accepted, or there is a first one that offends. -/
theorem accepted_or_offends (ws : List (List Char)) :
    Accepted ws ∨ ∃ before word after e, ws = before ++ word :: after ∧ Accepted before ∧
      Offends before word e := by
  induction ws using List.reverseRecOn with
  | nil => exact .inl ⟨by simp, by simp⟩
  | append_singleton earlier last ih =>
      rcases ih with accepted | ⟨before, word, after, e, rfl, accepted, offends⟩
      · rcases wellFormed_or_malformed last with wellFormed | ⟨name, raw, rfl, noColon, notQuoted⟩
        · by_cases taken : smallName last ∈ earlier.map smallName
          · exact .inr ⟨earlier, last, [], _, rfl, accepted, .repeated wellFormed taken⟩
          · refine .inl ⟨?_, ?_⟩
            · intro w hw
              rcases List.mem_append.1 hw with hw | hw
              · exact accepted.1 w hw
              · rw [List.mem_singleton.1 hw]
                exact wellFormed
            · rw [List.map_append, List.map_singleton]
              exact List.nodup_append.2 ⟨accepted.2, by simp, by
                rintro n hn m hm rfl
                rw [List.mem_singleton.1 hm] at hn
                exact taken hn⟩
        · exact .inr ⟨earlier, _, [], _, rfl, accepted, .malformed noColon notQuoted⟩
      · exact .inr ⟨before, word, after ++ [last], e, by simp, accepted, offends⟩

/-- The words that were read make the entries. -/
theorem reads_of_collect {ws : List (List Char)} {a : Annotations}
    (collected : collect .empty ws = .ok a) :
    ∃ es, List.Forall₂ Reads ws es ∧ a.entries.Perm es := by
  rcases accepted_or_offends ws with accepted | ⟨before, word, after, e, rfl, accepted, offends⟩
  · obtain ⟨b, es, collected', reads, perm⟩ := collect_of_accepted accepted
    rw [collected'] at collected
    cases collected
    exact ⟨es, reads, perm⟩
  · rw [collect_of_offends accepted offends] at collected
    cases collected

/-- The names of the words that were read are the names of the entries. -/
theorem contains_iff_of_collect {ws : List (List Char)} {a : Annotations}
    (collected : collect .empty ws = .ok a) {name : String} :
    a.contains name = true ↔ name ∈ ws.map smallName := by
  obtain ⟨es, reads, perm⟩ := reads_of_collect collected
  rw [Annotations.contains_iff, (perm.map Prod.fst).mem_iff, map_fst_of_reads reads]

theorem collect_eq_ok_iff {ws : List (List Char)} :
    (∃ a, collect .empty ws = .ok a) ↔ Accepted ws := by
  constructor
  · rintro ⟨a, collected⟩
    rcases accepted_or_offends ws with accepted | ⟨before, word, after, e, rfl, accepted, offends⟩
    · exact accepted
    · rw [collect_of_offends accepted offends] at collected
      cases collected
  · intro accepted
    obtain ⟨a, -, collected, -⟩ := collect_of_accepted accepted
    exact ⟨a, collected⟩

theorem collect_eq_error_iff {ws : List (List Char)} {e : FieldError} :
    collect .empty ws = .error e ↔
      ∃ before word after, ws = before ++ word :: after ∧ Accepted before ∧
        Offends before word e := by
  constructor
  · intro failed
    rcases accepted_or_offends ws with accepted | ⟨before, word, after, e', rfl, accepted, offends⟩
    · obtain ⟨a, -, collected, -⟩ := collect_of_accepted accepted
      rw [collected] at failed
      cases failed
    · rw [collect_of_offends accepted offends] at failed
      cases failed
      exact ⟨before, word, after, rfl, accepted, offends⟩
  · rintro ⟨before, word, after, rfl, accepted, offends⟩
    exact collect_of_offends accepted offends

/-! ## Tags -/

theorem parse_of_blank {tag : String} (blank : ∀ c ∈ body tag.toList, isWhiteSpace c = true) :
    parse tag = .ok .empty := by
  rw [parse]
  exact if_pos (List.all_eq_true.2 blank)

theorem parse_of_not_blank {tag : String}
    (notBlank : ¬∀ c ∈ body tag.toList, isWhiteSpace c = true) :
    parse tag = collect .empty (words (body tag.toList)) := by
  rw [parse, ← tokens_eq_words]
  exact if_neg fun h => notBlank (List.all_eq_true.1 h)

/-- A tag is decided by its words.  A body of white space says nothing.  Any other is read if and
only if its words are accepted, and then its entries are those of the words, one for each.
Otherwise the first word that is not well formed or repeats a name makes the error. -/
theorem parse_decided_by_words (tag : String) :
    ∃ inner, IsBody tag.toList inner ∧
      ((∀ c ∈ inner, isWhiteSpace c = true) → parse tag = .ok .empty) ∧
      ((¬∀ c ∈ inner, isWhiteSpace c = true) →
        ((∃ a, parse tag = .ok a) ↔ Accepted (words inner)) ∧
        (∀ a, parse tag = .ok a →
          ∃ es, List.Forall₂ Reads (words inner) es ∧ a.entries.Perm es) ∧
        ∀ e, parse tag = .error e ↔
          ∃ before word after, words inner = before ++ word :: after ∧ Accepted before ∧
            Offends before word e) := by
  refine ⟨body tag.toList, isBody_body _, parse_of_blank, fun notBlank => ?_⟩
  rw [parse_of_not_blank notBlank]
  exact ⟨collect_eq_ok_iff, fun a => reads_of_collect, fun e => collect_eq_error_iff⟩

/-- Two spaces make no word between them, a tab and a no-break space at the ends of a value are
dropped, and the sigma at the end of a capital name becomes a final one.  So `οδοσ` is a name of its
own, and the error of a word without quotes comes before that of a name repeated behind it. -/
theorem parse_decided_by_words_finalSigma :
    (∃ a, parse "\x60ΟΔΟΣ  Index:\"\tHash\u00a0\"\x60" = .ok a ∧
      a.entries.Perm [("οδος", ""), ("index", "Hash")]) ∧
    parse "\"ΟΔΟΣ οδοσ unique:yes ΟΔΟΣ\"" = .error (.invalidValue "yes" "unique") := by
  constructor
  · obtain ⟨inner, isBody, -, decided⟩ :=
      parse_decided_by_words "\x60ΟΔΟΣ  Index:\"\tHash\u00a0\"\x60"
    have notBlank : ¬∀ c ∈ inner, isWhiteSpace c = true := by
      rw [isBody.eq_body]
      exact fun blank => absurd (blank 'Σ' (by decide)) (by decide)
    have twoWords : words inner =
        ["ΟΔΟΣ".toList, "Index".toList ++ ':' :: '"' :: ("\tHash\u00a0".toList ++ ['"'])] := by
      rw [isBody.eq_body]
      decide +kernel
    obtain ⟨accepted, entries, -⟩ := decided notBlank
    rw [twoWords] at accepted entries
    have street : Reads "ΟΔΟΣ".toList ("οδος", "") := by
      have small : String.ofList (lowercase "ΟΔΟΣ".toList) = "οδος" := by decide +kernel
      rw [← small]
      exact .bare (by decide)
    have index : Reads ("Index".toList ++ ':' :: '"' :: ("\tHash\u00a0".toList ++ ['"']))
        ("index", "Hash") := by
      have small : String.ofList (lowercase "Index".toList) = "index" := by decide +kernel
      have trimmed : String.ofList (trim "\tHash\u00a0".toList) = "Hash" := by decide +kernel
      rw [← small, ← trimmed]
      exact .valued (by decide)
    have reads := List.Forall₂.cons street (.cons index .nil)
    obtain ⟨a, read⟩ := accepted.2 ⟨wellFormed_of_reads reads, by decide +kernel⟩
    obtain ⟨es, reads', perm⟩ := entries a read
    rw [Reads.rightUnique.forall₂ reads' reads] at perm
    exact ⟨a, read, perm⟩
  · obtain ⟨inner, isBody, -, decided⟩ :=
      parse_decided_by_words "\"ΟΔΟΣ οδοσ unique:yes ΟΔΟΣ\""
    have notBlank : ¬∀ c ∈ inner, isWhiteSpace c = true := by
      rw [isBody.eq_body]
      exact fun blank => absurd (blank 'Σ' (by decide)) (by decide)
    have fourWords : words inner =
        ["ΟΔΟΣ".toList, "οδοσ".toList, "unique".toList ++ ':' :: "yes".toList,
          "ΟΔΟΣ".toList] := by
      rw [isBody.eq_body]
      decide +kernel
    obtain ⟨-, -, refused⟩ := decided notBlank
    rw [fourWords] at refused
    refine (refused _).2 ⟨["ΟΔΟΣ".toList, "οδοσ".toList], _, ["ΟΔΟΣ".toList], rfl, ⟨?_, ?_⟩,
      .malformed (by decide) ?_⟩
    · exact List.forall_mem_cons.2 ⟨.inl (by decide), List.forall_mem_singleton.2 (.inl (by decide))⟩
    · decide +kernel
    · rintro value quoted
      cases quoted

end EntityBinding.Tag
