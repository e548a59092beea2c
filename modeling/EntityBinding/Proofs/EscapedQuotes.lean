import EntityBinding.Proofs.TagLanguage
import Mathlib.Tactic.Tauto

/-!
# Escaped quotes

`escapeQuotes` puts a backslash before each double quote of a text, as in a string literal.  The
backslashes of the text stay single.  Still no two texts become the same
(`escapeQuotes_injective`): a backslash that was put in is followed by a double quote, and one of
the text never is.

Spaces stay where they are, so the words of the new text are the words of the old one with
backslashes put in (`words_escapeQuotes`).
-/

namespace EntityBinding.Tag

/-- A text with a backslash before each double quote. -/
def escapeQuotes : List Char → List Char
  | [] => []
  | c :: rest => if c = '"' then '\\' :: '"' :: escapeQuotes rest else c :: escapeQuotes rest

theorem escapeQuotes_append (cs ds : List Char) :
    escapeQuotes (cs ++ ds) = escapeQuotes cs ++ escapeQuotes ds := by
  induction cs with
  | nil => rfl
  | cons c rest ih =>
      rw [List.cons_append, escapeQuotes, escapeQuotes, ih]
      split <;> rfl

theorem mem_escapeQuotes_iff {cs : List Char} {c : Char} :
    c ∈ escapeQuotes cs ↔ c ∈ cs ∨ (c = '\\' ∧ '"' ∈ cs) := by
  induction cs with
  | nil => simp [escapeQuotes]
  | cons d rest ih =>
      rw [escapeQuotes]
      by_cases quote : d = '"'
      · simp only [quote, if_true, List.mem_cons, ih]
        tauto
      · simp only [quote, if_false, List.mem_cons, ih, Ne.symm quote, false_or]
        tauto

theorem escapeQuotes_of_not_mem {cs : List Char} (plain : '"' ∉ cs) : escapeQuotes cs = cs := by
  induction cs with
  | nil => rfl
  | cons c rest ih =>
      rw [List.mem_cons, not_or] at plain
      rw [escapeQuotes, if_neg (Ne.symm plain.1), ih plain.2]

/-- No double quote stands at the head, since a backslash stands before it. -/
theorem escapeQuotes_ne_quote (cs rest : List Char) : escapeQuotes cs ≠ '"' :: rest := by
  cases cs with
  | nil => simp [escapeQuotes]
  | cons c cs =>
      rw [escapeQuotes]
      split
      · simp
      next other => simp [other]

theorem escapeQuotes_injective : Function.Injective escapeQuotes := by
  intro cs
  induction cs with
  | nil =>
      intro ds same
      cases ds with
      | nil => rfl
      | cons d ds =>
          rw [escapeQuotes, escapeQuotes] at same
          split at same <;> cases same
  | cons c cs ih =>
      intro ds same
      cases ds with
      | nil =>
          rw [escapeQuotes, escapeQuotes] at same
          split at same <;> cases same
      | cons d ds =>
          rw [escapeQuotes, escapeQuotes] at same
          split at same
          next quote =>
            split at same
            next quote' =>
              rw [List.cons.injEq, List.cons.injEq] at same
              rw [quote, quote', ih same.2.2]
            next =>
              exact absurd (List.cons.inj same).2.symm (escapeQuotes_ne_quote ds _)
          next =>
            split at same
            next => exact absurd (List.cons.inj same).2 (escapeQuotes_ne_quote cs _)
            next =>
              rw [List.cons.injEq] at same
              rw [same.1, ih same.2]

/-! ## Words -/

theorem pieces_escapeQuotes (cs : List Char) :
    pieces (escapeQuotes cs) = (pieces cs).map escapeQuotes := by
  induction cs with
  | nil => rfl
  | cons c rest ih =>
      by_cases space : c = ' '
      · subst space
        rw [escapeQuotes, if_neg (by decide), pieces, pieces, if_pos rfl, if_pos rfl, ih]
        rfl
      · by_cases quote : c = '"'
        · subst quote
          simp only [escapeQuotes, pieces, if_true, ih]
          cases pieces rest <;> simp [escapeQuotes]
        · simp only [escapeQuotes, pieces, quote, space, if_false, ih]
          cases pieces rest <;> simp [escapeQuotes, quote]

theorem words_escapeQuotes (cs : List Char) :
    words (escapeQuotes cs) = (words cs).map escapeQuotes := by
  have empty : (fun w : List Char => !w.isEmpty) ∘ escapeQuotes = fun w => !w.isEmpty := by
    funext w
    cases w with
    | nil => rfl
    | cons c rest =>
        rw [Function.comp_apply, escapeQuotes]
        split <;> rfl
  rw [← tokens_eq_words, ← tokens_eq_words, tokens, tokens, pieces_escapeQuotes,
    List.filter_map, empty]

theorem mem_pieces_iff {cs : List Char} {c : Char} (notSpace : c ≠ ' ') :
    (∃ p ∈ pieces cs, c ∈ p) ↔ c ∈ cs := by
  induction cs with
  | nil => simp [pieces]
  | cons d rest ih =>
      rw [pieces, List.mem_cons, ← ih]
      by_cases space : d = ' '
      · simp [space, notSpace]
      · rw [if_neg space]
        cases pieces rest with
        | nil => simp
        | cons p ps => simp [or_assoc]

/-- The words of a text hold its characters but for the spaces. -/
theorem mem_words_iff {cs : List Char} {c : Char} (notSpace : c ≠ ' ') :
    (∃ w ∈ words cs, c ∈ w) ↔ c ∈ cs := by
  rw [← mem_pieces_iff notSpace, ← tokens_eq_words, tokens]
  constructor
  · rintro ⟨w, hw, hc⟩
    exact ⟨w, (List.mem_filter.1 hw).1, hc⟩
  · rintro ⟨w, hw, hc⟩
    have nonempty : w ≠ [] := List.ne_nil_of_mem hc
    exact ⟨w, List.mem_filter.2 ⟨hw, by simpa using nonempty⟩, hc⟩

end EntityBinding.Tag
