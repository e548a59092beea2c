import EntityBinding.Proofs.TagEdits
import Mathlib.Data.List.Perm.Basic

/-!
# The order of the words of a tag

The words of a tag can stand in any order, with any number of spaces around them.

* `SpacedOut` relates words to the bodies they can be written as, and those words are the words of
  the body (`SpacedOut.words`).
* Whether words are accepted does not depend on their order (`accepted_perm`).  Accepted words
  make the same entries in any order, since entries are kept by their names (`collect_perm`).
  Where words are not accepted, the error depends on the order: it belongs to the first word that
  offends.

Two words with one name are accepted in no order (`not_accepted_of_repeated`), so they make a tag
fail wherever they stand in it.  A tag of white space alone is the exception: its words are never
looked at, so it has no entries even if the same white space stands in it twice.
-/

namespace EntityBinding.Tag

open Text (isBlank isWhiteSpace)

/-! ## Spaces around words -/

/-- Words written one after the other, with at least one space between two of them and any number
at the ends. -/
inductive SpacedOut : List (List Char) → List Char → Prop
  /-- There are no words. -/
  | nothing : SpacedOut [] []
  /-- The last word ends the text. -/
  | last (word : List Char) : SpacedOut [word] word
  /-- A space follows a word. -/
  | word (word : List Char) {ws : List (List Char)} {cs : List Char} :
      SpacedOut ws cs → SpacedOut (word :: ws) (word ++ ' ' :: cs)
  /-- There is one space more. -/
  | space {ws : List (List Char)} {cs : List Char} : SpacedOut ws cs → SpacedOut ws (' ' :: cs)

theorem SpacedOut.words {ws : List (List Char)} {cs : List Char} (spaced : SpacedOut ws cs)
    (areWords : ∀ w ∈ ws, IsWord w) : words cs = ws := by
  induction spaced with
  | nothing => rfl
  | last word => exact (areWords word List.mem_cons_self).words
  | @word word ws cs _ ih =>
      rw [words_append_space, (areWords word List.mem_cons_self).words,
        ih fun w hw => areWords w (List.mem_cons_of_mem word hw)]
      rfl
  | @space ws cs _ ih =>
      rw [← List.nil_append (' ' :: cs), words_append_space, ih areWords]
      rfl

/-- Spaces are white space, so the words decide whether the text is blank. -/
theorem SpacedOut.isBlank_eq {ws : List (List Char)} {cs : List Char} (spaced : SpacedOut ws cs) :
    isBlank cs = ws.all isBlank := by
  have space : isWhiteSpace ' ' = true := by decide
  induction spaced with
  | nothing => rfl
  | last word => simp
  | word word _ ih =>
      rw [isBlank] at ih
      rw [isBlank, List.all_append, List.all_cons, space, ih]
      rfl
  | space _ ih =>
      rw [isBlank] at ih
      rw [isBlank, List.all_cons, space, ih]
      rfl

/-! ## Words in another order -/

theorem accepted_perm {ws vs : List (List Char)} (perm : ws.Perm vs) :
    Accepted ws ↔ Accepted vs := by
  rw [Accepted, Accepted, (perm.map smallName).nodup_iff]
  exact and_congr_left' (forall_congr' fun w => imp_congr_left perm.mem_iff)

/-- Words that are read in one order make the same entries in any other. -/
theorem collect_perm {ws vs : List (List Char)} {a : Annotations} (perm : ws.Perm vs)
    (collected : collect .empty ws = .ok a) : collect .empty vs = .ok a := by
  obtain ⟨es, reads, entries⟩ := reads_of_collect collected
  have accepted : Accepted vs := (accepted_perm perm).1 (collect_eq_ok_iff.1 ⟨a, collected⟩)
  obtain ⟨fs, reads', moved⟩ := List.perm_comp_forall₂ perm.symm reads
  have distinct : (fs.map Prod.fst).Nodup := by
    rw [map_fst_of_reads reads']
    exact accepted.2
  obtain ⟨b, collected', entries'⟩ := collect_empty_of_reads reads' distinct
  rw [collected', Annotations.eq_of_perm (entries'.trans (moved.trans entries.symm))]

/-- Two words with one name cannot stand in a tag together. -/
theorem not_accepted_of_repeated {before between after : List (List Char)} {w w' : List Char}
    (same : smallName w = smallName w') :
    ¬Accepted (before ++ w :: (between ++ w' :: after)) := by
  rintro ⟨-, distinct⟩
  rw [List.map_append, List.map_cons, List.nodup_append, List.nodup_cons] at distinct
  refine distinct.2.1.1 ?_
  rw [same]
  exact List.mem_map_of_mem (List.mem_append_right between List.mem_cons_self)

/-! ## Tags in another order -/

theorem parse_wrap_of_blankWords {ws : List (List Char)} {cs : List Char}
    (spaced : SpacedOut ws cs) (blank : ∀ w ∈ ws, isBlank w = true) :
    parse (wrap cs) = .ok .empty := by
  apply parse_wrap_of_blank
  rw [spaced.isBlank_eq, List.all_eq_true.2 blank]

theorem parse_wrap_of_spacedOut {ws : List (List Char)} {cs : List Char}
    (areWords : ∀ w ∈ ws, IsWord w) (spaced : SpacedOut ws cs)
    (notBlank : ∃ w ∈ ws, isBlank w = false) : parse (wrap cs) = collect .empty ws := by
  have notBlank' : isBlank cs = false := by
    obtain ⟨w, hw, notBlank⟩ := notBlank
    rw [spaced.isBlank_eq, List.all_eq_false]
    exact ⟨w, hw, Bool.eq_false_iff.1 notBlank⟩
  rw [parse_wrap_of_not_blank notBlank', spaced.words areWords]

theorem parse_wrap_perm {ws vs : List (List Char)} {cs ds : List Char} {a : Annotations}
    (areWords : ∀ w ∈ ws, IsWord w) (perm : ws.Perm vs) (spaced : SpacedOut ws cs)
    (spaced' : SpacedOut vs ds) (read : parse (wrap cs) = .ok a) : parse (wrap ds) = .ok a := by
  by_cases blank : ∀ w ∈ ws, isBlank w = true
  · rw [parse_wrap_of_blankWords spaced blank] at read
    rw [parse_wrap_of_blankWords spaced' fun w hw => blank w (perm.mem_iff.2 hw), read]
  · have notBlank : ∃ w ∈ ws, isBlank w = false := by simpa using blank
    have notBlank' : ∃ w ∈ vs, isBlank w = false := by simpa [perm.mem_iff] using notBlank
    rw [parse_wrap_of_spacedOut areWords spaced notBlank] at read
    rw [parse_wrap_of_spacedOut (fun w hw => areWords w (perm.mem_iff.2 hw)) spaced' notBlank']
    exact collect_perm perm read

theorem exists_error_iff {ε α : Type} {x : Except ε α} :
    (∃ e, x = .error e) ↔ ∀ a, x ≠ .ok a := by
  cases x <;> simp

/-- Neither the order of the words of a tag nor the spaces around them make a difference.  Words
that are read in one order make the same entries in any other, and words that fail in one order
fail in any other.  In a tag that is not blank, two words with one name fail however far they
stand from each other.  A blank tag has no entries, whatever its words are. -/
theorem parse_orderless {ws vs : List (List Char)} {cs ds : List Char}
    (areWords : ∀ w ∈ ws, IsWord w) (perm : ws.Perm vs) (spaced : SpacedOut ws cs)
    (spaced' : SpacedOut vs ds) :
    (∀ a, parse (wrap cs) = .ok a ↔ parse (wrap ds) = .ok a) ∧
    ((∃ e, parse (wrap cs) = .error e) ↔ ∃ e, parse (wrap ds) = .error e) ∧
    (∀ before w between w' after, ws = before ++ w :: (between ++ w' :: after) →
      smallName w = smallName w' → (∃ v ∈ ws, isBlank v = false) →
      (∃ e, parse (wrap cs) = .error e) ∧ ∃ e, parse (wrap ds) = .error e) ∧
    ((∀ w ∈ ws, isBlank w = true) →
      parse (wrap cs) = .ok .empty ∧ parse (wrap ds) = .ok .empty) := by
  have areWords' : ∀ w ∈ vs, IsWord w := fun w hw => areWords w (perm.mem_iff.2 hw)
  have entries : ∀ a, parse (wrap cs) = .ok a ↔ parse (wrap ds) = .ok a := fun a =>
    ⟨parse_wrap_perm areWords perm spaced spaced',
      parse_wrap_perm areWords' perm.symm spaced' spaced⟩
  have failures : (∃ e, parse (wrap cs) = .error e) ↔ ∃ e, parse (wrap ds) = .error e := by
    rw [exists_error_iff, exists_error_iff]
    exact forall_congr' fun a => not_congr (entries a)
  refine ⟨entries, failures, ?_, ?_⟩
  · intro before w between w' after split same notBlank
    have failed : ∃ e, parse (wrap cs) = .error e := by
      rw [exists_error_iff, parse_wrap_of_spacedOut areWords spaced notBlank]
      intro a collected
      have accepted := collect_eq_ok_iff.1 ⟨a, collected⟩
      rw [split] at accepted
      exact not_accepted_of_repeated same accepted
    exact ⟨failed, failures.1 failed⟩
  · intro blank
    have read := parse_wrap_of_blankWords spaced blank
    exact ⟨read, (entries .empty).1 read⟩

/-- The word that comes first makes the error. -/
example : parse "\x60a:b c:d\x60" = .error (.invalidValue "b" "a") ∧
    parse "\x60c:d a:b\x60" = .error (.invalidValue "d" "c") := by
  decide

/-- A flag and a value trade places and lose their spaces.  A name that stands again in capitals
fails from both sides of another word. -/
theorem parse_orderless_uniqueIndex :
    (∃ a, a.entries = [("index", "hash"), ("unique", "")] ∧
      parse "\x60  unique   Index:\"hash\"\x60" = .ok a ∧
      parse "\x60Index:\"hash\" unique \x60" = .ok a) ∧
    (∃ e, parse "\x60id x  ID\x60" = .error e) ∧ ∃ e, parse "\x60 ID id x\x60" = .error e := by
  constructor
  · have spaced : SpacedOut ["unique".toList, "Index:\"hash\"".toList]
        (' ' :: ' ' :: ("unique".toList ++ ' ' :: ' ' :: ' ' :: "Index:\"hash\"".toList)) :=
      .space (.space (.word _ (.space (.space (.last _)))))
    have spaced' : SpacedOut ["Index:\"hash\"".toList, "unique".toList]
        ("Index:\"hash\"".toList ++ ' ' :: ("unique".toList ++ ' ' :: [])) :=
      .word _ (.word _ .nothing)
    have read : parse "\x60  unique   Index:\"hash\"\x60" =
        .ok ⟨[("index", "hash"), ("unique", "")], by decide⟩ := by
      decide
    have entries := (parse_orderless (by decide) (.swap _ _ _) spaced spaced').1
    exact ⟨_, rfl, read, (entries _).1 read⟩
  · have spaced : SpacedOut ["id".toList, "x".toList, "ID".toList]
        ("id".toList ++ ' ' :: ("x".toList ++ ' ' :: ' ' :: "ID".toList)) :=
      .word _ (.word _ (.space (.last _)))
    have spaced' : SpacedOut ["ID".toList, "id".toList, "x".toList]
        (' ' :: ("ID".toList ++ ' ' :: ("id".toList ++ ' ' :: "x".toList))) :=
      .space (.word _ (.word _ (.last _)))
    have perm : ["id".toList, "x".toList, "ID".toList].Perm
        ["ID".toList, "id".toList, "x".toList] := by decide
    have repeated := (parse_orderless (by decide) perm spaced spaced').2.2.1
    exact repeated [] _ ["x".toList] _ [] rfl (by decide) ⟨_, List.mem_cons_self, by decide⟩

/-- Two tabs with a space between them are two words with one name, but a tag that holds nothing
else is blank, so it does not fail. -/
theorem parse_blankTwins :
    (∀ w ∈ [['\t'], ['\t']], IsWord w) ∧ SpacedOut [['\t'], ['\t']] ['\t', ' ', '\t'] ∧
      smallName ['\t'] = smallName ['\t'] ∧ parse (wrap ['\t', ' ', '\t']) = .ok .empty :=
  ⟨by decide, .word ['\t'] (.last ['\t']), rfl, parse_wrap_of_blank (by decide)⟩

end EntityBinding.Tag
