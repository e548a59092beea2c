import EntityBinding.Proofs.EscapedQuotes
import EntityBinding.Proofs.LetterCase
import EntityBinding.Proofs.TagEdits

/-!
# Tags between double quotes

A body can stand between double quotes instead of backticks.  As in a string literal, each double
quote of the body then has a backslash before it (`quoteLiteral`).  The reader drops the quotes
around the literal and leaves the backslashes, so it reads the words of the body with backslashes in
them (`words_escapeQuotes`).

* A word with a value is not well formed any more: what follows its colon never starts with a double
  quote (`wellFormed_escapeQuotes_iff`).  So a literal can hold flags only.
* Names that were equal stay equal and others stay apart (`smallName_escapeQuotes_eq_iff`), since
  the backslashes can be told from the rest of a text.  But a name with a double quote in it becomes
  another name.
* An error quotes the word it belongs to, so it tells of the backslashes in it
  (`backslash_mem_message`).

`parse_quoteLiteral` puts these together: the literal and the body between backticks are read
alike if and only if the body has no double quote, or both fail at the same word and that word has
none.
-/

namespace EntityBinding.Tag

open Text (lowercase lowerAt lowerAfter startsCased IsSmall isWhiteSpace)

/-- The literal of a text between double quotes. -/
def quoteLiteral (inner : List Char) : String :=
  String.ofList ('"' :: (escapeQuotes inner ++ ['"']))

/-! ## Names -/

theorem isSmall_quote : IsSmall '"' :=
  ⟨Text.lowerChar_eq_self _ (by decide), by decide, by decide⟩

theorem isSmall_backslash : IsSmall '\\' :=
  ⟨Text.lowerChar_eq_self _ (by decide), by decide, by decide⟩

/-- No word starts at the signs of string literals, or goes on behind them. -/
theorem startsCased_sign : ∀ c ∈ ['"', '\\'], ∀ cs, startsCased (c :: cs) = false := by
  have signs : (['"', '\\'].all fun c => !Text.caseIgnorableRanges.contains c &&
      !Text.casedRanges.contains c) = true := by
    decide +kernel
  intro c hc cs
  have sign := List.all_eq_true.1 signs c hc
  rw [Bool.and_eq_true, Bool.not_eq_true', Bool.not_eq_true'] at sign
  rw [Text.startsCased_cons, sign.1, sign.2]
  rfl

theorem startsCased_quote (cs : List Char) : startsCased ('"' :: cs) = false :=
  startsCased_sign _ (by decide) cs

theorem startsCased_backslash (cs : List Char) : startsCased ('\\' :: cs) = false :=
  startsCased_sign _ (by decide) cs

theorem startsCased_escapeQuotes (cs : List Char) :
    startsCased (escapeQuotes cs) = startsCased cs := by
  induction cs with
  | nil => rfl
  | cons c rest ih =>
      rw [escapeQuotes]
      split
      next quote => rw [quote, startsCased_backslash, startsCased_quote]
      next => rw [Text.startsCased_cons, Text.startsCased_cons, ih]

/-- Neither the quote nor the backslash is a letter, and the search for a letter ends at both.  So
a backslash before a quote does not change the small letters around it. -/
theorem lowerAfter_escapeQuotes (cs : List Char) :
    ∀ before before', startsCased before' = startsCased before →
      lowerAfter before' (escapeQuotes cs) = escapeQuotes (lowerAfter before cs) := by
  induction cs with
  | nil => exact fun _ _ _ => rfl
  | cons c rest ih =>
      -- The texts before differ in the backslashes, so the induction keeps only what a final sigma
      -- asks of them.
      intro before before' same
      rw [escapeQuotes, lowerAfter, escapeQuotes_append]
      split
      next quote =>
        subst quote
        have cut : startsCased ('"' :: '\\' :: before') = startsCased ('"' :: before) := by
          rw [startsCased_quote, startsCased_quote]
        rw [lowerAfter, lowerAfter, Text.lowerAt_of_isSmall isSmall_backslash,
          Text.lowerAt_of_isSmall isSmall_quote, Text.lowerAt_of_isSmall isSmall_quote,
          ih _ _ cut]
        rfl
      next other =>
        have plain : '"' ∉ lowerAt before c rest := fun h =>
          other (Text.eq_of_mem_lowerAt h (by decide)).symm
        have alike : lowerAt before' c (escapeQuotes rest) = lowerAt before c rest := by
          rw [lowerAt, lowerAt, same, startsCased_escapeQuotes]
        have longer : startsCased (c :: before') = startsCased (c :: before) := by
          rw [Text.startsCased_cons, Text.startsCased_cons, same]
        rw [lowerAfter, alike, escapeQuotes_of_not_mem plain, ih _ _ longer]

theorem lowercase_escapeQuotes (cs : List Char) :
    lowercase (escapeQuotes cs) = escapeQuotes (lowercase cs) :=
  lowerAfter_escapeQuotes cs [] [] rfl

theorem takeWhile_escapeQuotes (word : List Char) :
    (escapeQuotes word).takeWhile (· ≠ ':') = escapeQuotes (word.takeWhile (· ≠ ':')) := by
  induction word with
  | nil => rfl
  | cons c rest ih =>
      rw [escapeQuotes]
      split
      next quote =>
        subst quote
        simpa [escapeQuotes] using ih
      next other =>
        by_cases colon : c = ':'
        · simp [colon, escapeQuotes]
        · simpa [colon, escapeQuotes, other] using ih

theorem smallName_escapeQuotes (word : List Char) :
    smallName (escapeQuotes word) = String.ofList (escapeQuotes (smallName word).toList) := by
  rw [smallName, takeWhile_escapeQuotes, lowercase_escapeQuotes, smallName, String.toList_ofList]

/-- Names are equal with the backslashes if and only if they are equal without. -/
theorem smallName_escapeQuotes_eq_iff {v w : List Char} :
    smallName (escapeQuotes v) = smallName (escapeQuotes w) ↔ smallName v = smallName w := by
  rw [smallName_escapeQuotes, smallName_escapeQuotes, String.ofList_inj,
    escapeQuotes_injective.eq_iff, String.toList_inj]

theorem mem_map_smallName_iff (ws : List (List Char)) (word : List Char) :
    smallName (escapeQuotes word) ∈ (ws.map escapeQuotes).map smallName ↔
      smallName word ∈ ws.map smallName := by
  simp only [List.map_map, List.mem_map, Function.comp_apply, smallName_escapeQuotes_eq_iff]

/-! ## Words between double quotes -/

/-- A value cannot stand in a literal: a backslash comes between the colon and the quote. -/
theorem wellFormed_escapeQuotes_iff {word : List Char} :
    WellFormed (escapeQuotes word) ↔ ':' ∉ word := by
  have colon : ':' ∈ escapeQuotes word ↔ ':' ∈ word := by
    rw [mem_escapeQuotes_iff]
    simp
  constructor
  · rintro (bare | ⟨name, value, noColon, valued⟩) h
    · exact bare (colon.2 h)
    · obtain ⟨n, raw, rfl, noColon'⟩ := List.eq_append_cons_of_mem h
      rw [escapeQuotes_append, escapeQuotes, if_neg (by decide)] at valued
      have noColon'' : ':' ∉ escapeQuotes n := by
        rw [mem_escapeQuotes_iff]
        simp [noColon']
      have behind := congrArg (List.dropWhile (· ≠ ':')) valued
      rw [dropWhile_name _ noColon'', dropWhile_name _ noColon] at behind
      exact escapeQuotes_ne_quote _ _ (List.cons.inj behind).2
  · exact fun bare => .inl fun h => bare (colon.1 h)

/-- The words of a literal are accepted if they are flags with names of their own. -/
theorem accepted_escapeQuotes_iff {ws : List (List Char)} :
    Accepted (ws.map escapeQuotes) ↔ (∀ w ∈ ws, ':' ∉ w) ∧ Accepted ws := by
  have distinct : ((ws.map escapeQuotes).map smallName).Nodup ↔ (ws.map smallName).Nodup := by
    simp only [List.Nodup, List.pairwise_map, ne_eq, smallName_escapeQuotes_eq_iff]
  rw [Accepted, Accepted, distinct, List.forall_mem_map]
  simp only [wellFormed_escapeQuotes_iff]
  exact ⟨fun ⟨bare, names⟩ => ⟨bare, fun w hw => .inl (bare w hw), names⟩,
    fun ⟨bare, _, names⟩ => ⟨bare, names⟩⟩

/-! ## Errors -/

theorem mem_of_mem_smallName {word : List Char} {c : Char} (low : c.toNat < 0x61)
    (h : c ∈ (smallName word).toList) : c ∈ word := by
  rw [smallName, String.toList_ofList] at h
  exact (List.takeWhile_sublist _).mem (Text.mem_of_mem_lowercase low h)

/-- A flag with a double quote in it has a backslash in its name. -/
theorem backslash_mem_smallName {word : List Char} (bare : ':' ∉ word) (quote : '"' ∈ word) :
    '\\' ∈ (smallName (escapeQuotes word)).toList := by
  have inName : '"' ∈ (smallName word).toList := by
    rw [smallName, List.takeWhile_eq_self_iff.2 (ne_colon_of_mem bare), String.toList_ofList]
    exact Text.mem_lowercase_of_isSmall isSmall_quote quote
  rw [smallName_escapeQuotes, String.toList_ofList, mem_escapeQuotes_iff]
  exact .inr ⟨rfl, inName⟩

theorem backslash_mem_invalidValue {value name : String} :
    '\\' ∈ (FieldError.invalidValue value name).message.toList ↔
      '\\' ∈ value.toList ∨ '\\' ∈ name.toList := by
  have start : '\\' ∉ "invalid annotation value ".toList := by decide
  have middle : '\\' ∉ " for ".toList := by decide
  have stop : '\\' ∉ ", expecting \x60name:\"value\"\x60 format".toList := by decide
  show '\\' ∈ ("invalid annotation value " ++ value ++ " for " ++ name ++
    ", expecting \x60name:\"value\"\x60 format").toList ↔ _
  rw [String.toList_append, List.mem_append, or_iff_left stop, String.toList_append,
    List.mem_append, String.toList_append, List.mem_append, or_iff_left middle,
    String.toList_append, List.mem_append, or_iff_right start]

theorem backslash_mem_duplicateName {name : String} :
    '\\' ∈ (FieldError.duplicateName name).message.toList ↔ '\\' ∈ name.toList := by
  have start : '\\' ∉ "duplicate annotation ".toList := by decide
  show '\\' ∈ ("duplicate annotation " ++ name).toList ↔ _
  rw [String.toList_append, List.mem_append, or_iff_right start]

/-- The message of an error has no backslash that is not in the word. -/
theorem backslash_mem_of_mem_message {before : List (List Char)} {word : List Char}
    {e : FieldError} (offends : Offends before word e) (h : '\\' ∈ e.message.toList) :
    '\\' ∈ word := by
  cases offends with
  | malformed =>
      rw [backslash_mem_invalidValue, String.toList_ofList, String.toList_ofList] at h
      simp [h.symm]
  | repeated =>
      rw [backslash_mem_duplicateName] at h
      exact mem_of_mem_smallName (by decide) h

/-- The error of a word of a literal tells of the backslashes in it. -/
theorem backslash_mem_message {before : List (List Char)} {word : List Char} {e : FieldError}
    (offends : Offends before (escapeQuotes word) e) (quote : '"' ∈ word) :
    '\\' ∈ e.message.toList := by
  have inWord : '\\' ∈ escapeQuotes word := mem_escapeQuotes_iff.2 (.inr ⟨rfl, quote⟩)
  generalize written : escapeQuotes word = word' at offends inWord
  cases offends with
  | @malformed name raw =>
      have inParts : '\\' ∈ name ∨ '\\' ∈ raw := by simpa using inWord
      rw [backslash_mem_invalidValue, String.toList_ofList, String.toList_ofList]
      exact inParts.symm
  | repeated wellFormed =>
      rw [← written, wellFormed_escapeQuotes_iff] at wellFormed
      rw [backslash_mem_duplicateName, ← written]
      exact backslash_mem_smallName wellFormed quote

/-- A word without double quotes offends in a literal if it offends between backticks. -/
theorem offends_escapeQuotes_iff {before : List (List Char)} {word : List Char} {e : FieldError}
    (plain : '"' ∉ word) : Offends (before.map escapeQuotes) word e ↔ Offends before word e := by
  have taken := mem_map_smallName_iff before word
  rw [escapeQuotes_of_not_mem plain] at taken
  constructor
  · intro offends
    cases offends with
    | malformed noColon notQuoted => exact .malformed noColon notQuoted
    | repeated wellFormed again => exact .repeated wellFormed (taken.1 again)
  · intro offends
    cases offends with
    | malformed noColon notQuoted => exact .malformed noColon notQuoted
    | repeated wellFormed again => exact .repeated wellFormed (taken.2 again)

/-! ## Literals -/

theorem body_quoteLiteral (inner : List Char) :
    body (quoteLiteral inner).toList = escapeQuotes inner :=
  body_of_wrapped ⟨'"', .inr rfl, String.toList_ofList⟩

theorem parse_quoteLiteral_of_not_mem {inner : List Char} (plain : '"' ∉ inner) :
    parse (quoteLiteral inner) = parse (wrap inner) := by
  rw [parse, parse, body_quoteLiteral, body_wrap, escapeQuotes_of_not_mem plain]

theorem parse_quoteLiteral_of_mem {inner : List Char} {c : Char} (h : c ∈ inner)
    (notSpace : isWhiteSpace c = false) :
    parse (quoteLiteral inner) = collect .empty ((words inner).map escapeQuotes) := by
  rw [parse_of_not_blank, body_quoteLiteral, words_escapeQuotes]
  rw [body_quoteLiteral]
  intro blank
  rw [blank c (mem_escapeQuotes_iff.2 (.inl h))] at notSpace
  cases notSpace

theorem parse_wrap_of_mem {inner : List Char} {c : Char} (h : c ∈ inner)
    (notSpace : isWhiteSpace c = false) : parse (wrap inner) = collect .empty (words inner) :=
  parse_wrap_of_not_blank (List.all_eq_false.2 ⟨c, h, Bool.eq_false_iff.1 notSpace⟩)

/-- If the literal says what the body says, then no backslash was put in. -/
theorem quote_not_mem_of_collect {inner : List Char} {a : Annotations} (clean : '\\' ∉ inner)
    (literal : collect .empty ((words inner).map escapeQuotes) = .ok a)
    (read : collect .empty (words inner) = .ok a) : '"' ∉ inner := by
  intro quote
  obtain ⟨w, hw, quote⟩ := (mem_words_iff (by decide)).2 quote
  have bare : ':' ∉ w := (accepted_escapeQuotes_iff.1 (collect_eq_ok_iff.1 ⟨a, literal⟩)).1 w hw
  have named : a.contains (smallName (escapeQuotes w)) = true := by
    rw [contains_iff_of_collect literal]
    exact List.mem_map_of_mem (List.mem_map_of_mem hw)
  rw [contains_iff_of_collect read] at named
  obtain ⟨v, hv, same⟩ := List.mem_map.1 named
  have backslash := backslash_mem_smallName bare quote
  rw [← same] at backslash
  exact clean ((mem_words_iff (by decide)).1 ⟨v, hv, mem_of_mem_smallName (by decide) backslash⟩)

/-- `e` is the error of the first word that offends, and this word has no double quote and stands
behind flags alone. -/
def PlainOffence (inner : List Char) (e : FieldError) : Prop :=
  ∃ before word after, words inner = before ++ word :: after ∧ Accepted before ∧
    (∀ w ∈ before, ':' ∉ w) ∧ Offends before word e ∧ '"' ∉ word

theorem PlainOffence.collect_eq {inner : List Char} {e : FieldError}
    (offence : PlainOffence inner e) :
    collect .empty (words inner) = .error e ∧
      collect .empty ((words inner).map escapeQuotes) = .error e := by
  obtain ⟨before, word, after, split, accepted, bare, offends, plain⟩ := offence
  rw [split, List.map_append, List.map_cons, escapeQuotes_of_not_mem plain]
  exact ⟨collect_of_offends accepted offends,
    collect_of_offends (accepted_escapeQuotes_iff.2 ⟨bare, accepted⟩)
      ((offends_escapeQuotes_iff plain).2 offends)⟩

/-- An error of the literal that tells of no backslash is an error of the body. -/
theorem plainOffence_of_collect {inner : List Char} {e : FieldError} (clean : '\\' ∉ inner)
    (literal : collect .empty ((words inner).map escapeQuotes) = .error e)
    (read : collect .empty (words inner) = .error e) : PlainOffence inner e := by
  -- Both errors are `e`.  That of the body tells of no backslash, so the offending word of the
  -- literal has none either, and stands in the body as it is.
  have silent : '\\' ∉ e.message.toList := by
    obtain ⟨before, word, after, split, -, offends⟩ := collect_eq_error_iff.1 read
    intro h
    have hw : word ∈ words inner := by simp [split]
    exact clean ((mem_words_iff (by decide)).1 ⟨word, hw, backslash_mem_of_mem_message offends h⟩)
  obtain ⟨before', word', after', split, accepted, offends⟩ := collect_eq_error_iff.1 literal
  obtain ⟨before, rest, origin, rfl, restSplit⟩ := List.map_eq_append_iff.1 split
  obtain ⟨word, after, rfl, rfl, rfl⟩ := List.map_eq_cons_iff.1 restSplit
  have plain : '"' ∉ word := fun quote => silent (backslash_mem_message offends quote)
  rw [escapeQuotes_of_not_mem plain, offends_escapeQuotes_iff plain] at offends
  obtain ⟨bare, accepted⟩ := accepted_escapeQuotes_iff.1 accepted
  exact ⟨before, word, after, origin, accepted, bare, offends, plain⟩

/-- When the literal between double quotes is read as the body between backticks is.  This is so if
the body has no double quote, or if both fail at one word that has none and stands behind flags.
So a tag that can be read between backticks says the same as a literal only if it has no double
quote, and no tag with a value can be written as a literal. -/
theorem parse_quoteLiteral {inner : List Char} (clean : '\\' ∉ inner) :
    (parse (quoteLiteral inner) = parse (wrap inner) ↔
      '"' ∉ inner ∨ ∃ e, PlainOffence inner e) ∧
    (∀ a, parse (wrap inner) = .ok a → (parse (quoteLiteral inner) = .ok a ↔ '"' ∉ inner)) ∧
    (':' ∈ inner → ∃ e, parse (quoteLiteral inner) = .error e) := by
  have quoteShows : isWhiteSpace '"' = false := by decide
  have alike : parse (quoteLiteral inner) = parse (wrap inner) ↔
      '"' ∉ inner ∨ ∃ e, PlainOffence inner e := by
    by_cases quote : '"' ∈ inner
    · rw [parse_quoteLiteral_of_mem quote quoteShows, parse_wrap_of_mem quote quoteShows]
      constructor
      · intro same
        cases read : collect .empty (words inner) with
        | ok a =>
            rw [read] at same
            exact .inl (quote_not_mem_of_collect clean same read)
        | error e =>
            rw [read] at same
            exact .inr ⟨e, plainOffence_of_collect clean same read⟩
      · rintro (plain | ⟨e, offence⟩)
        · exact absurd quote plain
        · rw [offence.collect_eq.1, offence.collect_eq.2]
    · exact ⟨fun _ => .inl quote, fun _ => parse_quoteLiteral_of_not_mem quote⟩
  refine ⟨alike, ?_, ?_⟩
  · intro a read
    constructor
    · intro literal quote
      rw [parse_quoteLiteral_of_mem quote quoteShows] at literal
      rw [parse_wrap_of_mem quote quoteShows] at read
      exact quote_not_mem_of_collect clean literal read quote
    · intro plain
      rw [parse_quoteLiteral_of_not_mem plain, read]
  · intro colon
    rw [parse_quoteLiteral_of_mem colon (by decide)]
    obtain ⟨w, hw, colon⟩ := (mem_words_iff (by decide)).2 colon
    cases literal : collect .empty ((words inner).map escapeQuotes) with
    | ok a =>
        have accepted := collect_eq_ok_iff.1 ⟨a, literal⟩
        exact absurd colon ((accepted_escapeQuotes_iff.1 accepted).1 w hw)
    | error e => exact ⟨e, rfl⟩

/-- The literal of `id:x b"` fails as the body does, at its first word.  That of `link:"A"` fails
where the body is read. -/
theorem parse_quoteLiteral_firstWord :
    parse "\"id:x b\\\"\"" = parse "\x60id:x b\"\x60" ∧
      (∃ a, parse "\x60link:\"A\"\x60" = .ok a) ∧ ∃ e, parse "\"link:\\\"A\\\"\"" = .error e := by
  have offends : Offends [] (['i', 'd'] ++ ':' :: ['x']) (.invalidValue "x" "id") :=
    .malformed (by decide) (by simp)
  have offence : PlainOffence "id:x b\"".toList (.invalidValue "x" "id") :=
    ⟨[], _, ["b\"".toList], by decide, by simp [Accepted], by simp, offends, by decide⟩
  have literal : quoteLiteral "id:x b\"".toList = "\"id:x b\\\"\"" := by decide
  have literal' : quoteLiteral "link:\"A\"".toList = "\"link:\\\"A\\\"\"" := by decide
  have alike := (parse_quoteLiteral (show '\\' ∉ "id:x b\"".toList by decide)).1.2
    (.inr ⟨_, offence⟩)
  have fails := (parse_quoteLiteral (show '\\' ∉ "link:\"A\"".toList by decide)).2.2 (by decide)
  rw [literal] at alike
  rw [literal'] at fails
  have read : parse "\x60link:\"A\"\x60" = .ok ⟨[("link", "A")], by decide⟩ := by decide
  exact ⟨alike, ⟨_, read⟩, fails⟩

/-- A relation to `Customer` can be written between backticks, and its literal does not say the
same. -/
theorem parse_quoteLiteral_customer :
    '\\' ∉ "link:\"Customer\"".toList ∧ '\x60' ∉ "link:\"Customer\"".toList ∧
      quoteLiteral "link:\"Customer\"".toList = "\"link:\\\"Customer\\\"\"" ∧
      parse "\"link:\\\"Customer\\\"\"" = .error (.invalidValue "\\\"Customer\\\"" "link") ∧
      parse (wrap "link:\"Customer\"".toList) = .ok ⟨[("link", "Customer")], by decide⟩ := by
  decide

end EntityBinding.Tag
