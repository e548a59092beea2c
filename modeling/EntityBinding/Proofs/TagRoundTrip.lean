import EntityBinding.Proofs.TagLanguage
import EntityBinding.Proofs.TextForms

/-!
# Writing tags

`write` writes entries as a tag: each as its name, a colon and its value in double quotes, with
spaces between them and backticks around them.

What a tag says is *plain*: its names are in small letters and hold no separator, and its values
are trimmed and hold no space (`Plain`).  Small letters and trimming are normal forms, and small
letters bring in no separator, so reading a word of a tag makes a plain entry
(`plain_of_reads`).  A plain entry is what is read from the word that it is written as
(`reads_writeEntry`), and the words of a written tag are those of its entries (`words_joined`).
So plain entries with names of their own are read as they were written, in whatever order they
stand (`parse_write`).
-/

namespace EntityBinding.Tag

open Text (lowercase lowercaseString trim isWhiteSpace)

/-! ## Plain entries -/

/-- An entry that stays as it is when it is written and read. -/
structure Plain (e : String × String) : Prop where
  /-- The name is in small letters. -/
  small : lowercaseString e.1 = e.1
  /-- The name stands in one word. -/
  name_space : ' ' ∉ e.1.toList
  /-- The name ends where its value starts. -/
  name_colon : ':' ∉ e.1.toList
  /-- No white space stands at the ends of the value. -/
  trimmed : trim e.2.toList = e.2.toList
  /-- The value stands in one word. -/
  value_space : ' ' ∉ e.2.toList

theorem space_not_mem_of_mem_pieces {cs : List Char} : ∀ p ∈ pieces cs, ' ' ∉ p := by
  induction cs with
  | nil => simp [pieces]
  | cons c rest ih =>
      rw [pieces]
      by_cases space : c = ' '
      · rw [if_pos space]
        exact List.forall_mem_cons.2 ⟨List.not_mem_nil, ih⟩
      · rw [if_neg space]
        cases found : pieces rest with
        | nil => simpa using Ne.symm space
        | cons p ps =>
            rw [found, List.forall_mem_cons] at ih
            refine List.forall_mem_cons.2 ⟨?_, ih.2⟩
            exact List.not_mem_cons_of_ne_of_not_mem (Ne.symm space) ih.1

theorem space_not_mem_of_mem_words {cs word : List Char} (h : word ∈ words cs) : ' ' ∉ word := by
  rw [← tokens_eq_words] at h
  exact space_not_mem_of_mem_pieces word (List.mem_filter.1 h).1

theorem plain_of_small {name value : List Char} (noSpace : ' ' ∉ name) (noColon : ':' ∉ name)
    (trimmed : trim value = value) (noSpace' : ' ' ∉ value) :
    Plain (String.ofList (lowercase name), String.ofList value) where
  small := by rw [lowercaseString, String.toList_ofList, Text.lowercase_lowercase]
  name_space := by
    rw [String.toList_ofList]
    exact fun h => noSpace (Text.mem_of_mem_lowercase (by decide) h)
  name_colon := by
    rw [String.toList_ofList]
    exact fun h => noColon (Text.mem_of_mem_lowercase (by decide) h)
  trimmed := by rw [String.toList_ofList, trimmed]
  value_space := by rwa [String.toList_ofList]

theorem plain_of_reads {word : List Char} {e : String × String} (noSpace : ' ' ∉ word)
    (reads : Reads word e) : Plain e := by
  cases reads with
  | bare noColon => exact plain_of_small noSpace noColon rfl List.not_mem_nil
  | @valued name value noColon =>
      simp only [List.mem_append, List.mem_cons, not_or] at noSpace
      obtain ⟨name_space, -, -, value_space, -⟩ := noSpace
      exact plain_of_small name_space noColon (Text.trim_trim value)
        fun h => value_space (Text.mem_of_mem_trim h)

/-! ## Written words -/

/-- An entry as a word. -/
def writeEntry (e : String × String) : String := e.1 ++ ":\"" ++ e.2 ++ "\""

/-- Entries as a tag. -/
def write (es : List (String × String)) : String :=
  "\x60" ++ " ".intercalate (es.map writeEntry) ++ "\x60"

theorem toList_writeEntry (e : String × String) :
    (writeEntry e).toList = e.1.toList ++ ':' :: '"' :: (e.2.toList ++ ['"']) := by
  simp [writeEntry]

theorem reads_writeEntry {e : String × String} (plain : Plain e) :
    Reads (writeEntry e).toList e := by
  have reads : Reads (e.1.toList ++ ':' :: '"' :: (e.2.toList ++ ['"']))
      (lowercaseString e.1, String.ofList (trim e.2.toList)) := .valued plain.name_colon
  rw [plain.small, plain.trimmed, String.ofList_toList] at reads
  rwa [toList_writeEntry]

theorem space_not_mem_writeEntry {e : String × String} (plain : Plain e) :
    ' ' ∉ (writeEntry e).toList := by
  simp [toList_writeEntry, plain.name_space, plain.value_space]

/-! ## Written tags -/

/-- The words that entries are written as. -/
def writtenWords (es : List (String × String)) : List (List Char) :=
  es.map fun e => (writeEntry e).toList

/-- The words that entries are written as, with spaces between them. -/
def joined (es : List (String × String)) : List Char := [' '].intercalate (writtenWords es)

theorem body_write (es : List (String × String)) : body (write es).toList = joined es := by
  apply body_of_wrapped
  refine ⟨'\x60', .inl rfl, ?_⟩
  simp [write, joined, writtenWords, String.toList_intercalate, Function.comp_def]

/-- A written tag with an entry has a colon, so it is not blank. -/
theorem colon_mem_joined {es : List (String × String)} (nonempty : es ≠ []) : ':' ∈ joined es := by
  cases es with
  | nil => exact absurd rfl nonempty
  | cons e rest =>
      have colon : ':' ∈ (writeEntry e).toList := by simp [toList_writeEntry]
      cases rest with
      | nil => simpa [joined, writtenWords] using colon
      | cons e' rest => simp [joined, writtenWords, colon]

theorem words_joined {es : List (String × String)} (nonempty : es ≠ [])
    (plain : ∀ e ∈ es, Plain e) : words (joined es) = writtenWords es := by
  have split : (joined es).splitOn ' ' = writtenWords es := by
    refine List.splitOn_intercalate ' ' ?_ (by simpa [writtenWords] using nonempty)
    intro word hword
    obtain ⟨e, he, rfl⟩ := List.mem_map.1 hword
    exact space_not_mem_writeEntry (plain e he)
  rw [words, split, List.filter_eq_self]
  intro word hword
  obtain ⟨e, he, rfl⟩ := List.mem_map.1 hword
  simp [toList_writeEntry]

theorem reads_writtenWords {es : List (String × String)} (plain : ∀ e ∈ es, Plain e) :
    List.Forall₂ Reads (writtenWords es) es := by
  rw [writtenWords, List.forall₂_map_left_iff, List.forall₂_same]
  exact fun e he => reads_writeEntry (plain e he)

/-- Plain entries with names of their own are read as they were written. -/
theorem parse_write {es : List (String × String)} (plain : ∀ e ∈ es, Plain e)
    (distinct : (es.map Prod.fst).Nodup) :
    ∃ a, parse (write es) = .ok a ∧ a.entries.Perm es := by
  by_cases nonempty : es = []
  · subst nonempty
    refine ⟨.empty, parse_of_blank ?_, .refl _⟩
    rw [body_write]
    simp [joined, writtenWords]
  · have notBlank : ¬∀ c ∈ body (write es).toList, isWhiteSpace c = true := by
      intro blank
      rw [body_write] at blank
      exact absurd (blank ':' (colon_mem_joined nonempty)) (by decide)
    rw [parse_of_not_blank notBlank, body_write, words_joined nonempty plain]
    exact collect_empty_of_reads (reads_writtenWords plain) distinct

theorem exists_word_of_mem {ws : List (List Char)} {es : List (String × String)}
    {e : String × String} (reads : List.Forall₂ Reads ws es) (he : e ∈ es) :
    ∃ w ∈ ws, Reads w e := by
  induction reads with
  | nil => cases he
  | @cons w e' ws es head tail ih =>
      rcases List.mem_cons.1 he with rfl | he
      · exact ⟨w, List.mem_cons_self, head⟩
      · obtain ⟨v, hv, read⟩ := ih he
        exact ⟨v, List.mem_cons_of_mem w hv, read⟩

theorem plain_of_parse {tag : String} {a : Annotations} (read : parse tag = .ok a) :
    ∀ e ∈ a.entries, Plain e := by
  intro e he
  by_cases blank : ∀ c ∈ body tag.toList, isWhiteSpace c = true
  · rw [parse_of_blank blank] at read
    cases read
    cases he
  · rw [parse_of_not_blank blank] at read
    obtain ⟨es, reads, perm⟩ := reads_of_collect read
    obtain ⟨word, hword, read⟩ := exists_word_of_mem reads (perm.mem_iff.1 he)
    exact plain_of_reads (space_not_mem_of_mem_words hword) read

/-- Writing what a tag says loses nothing.  The entries that were read are plain, and written in
any order they make a tag that says the same. -/
theorem parse_write_of_parse {tag : String} {a : Annotations} (read : parse tag = .ok a) :
    (∀ e ∈ a.entries, Plain e) ∧ ∀ es, es.Perm a.entries → parse (write es) = .ok a := by
  have plain := plain_of_parse read
  refine ⟨plain, fun es perm => ?_⟩
  obtain ⟨b, again, perm'⟩ := parse_write (fun e he => plain e (perm.mem_iff.1 he))
    ((perm.map Prod.fst).nodup_iff.2 a.names_nodup)
  rw [again, Annotations.eq_of_perm (perm'.trans perm)]

/-- A name with `İ` and a final sigma, and a value with a tab before it and a quote and a colon
inside: written back in the other order, the tag says the same. -/
theorem parse_write_of_parse_capitals :
    ∃ a, a.entries = [("index", "a\":b"), ("i\u0307δος", "")] ∧
      parse "İΔΟΣ INDEX:\"\ta\":b\"" = .ok a ∧
      parse "\x60i\u0307δος:\"\" index:\"a\":b\"\x60" = .ok a := by
  have read : parse "İΔΟΣ INDEX:\"\ta\":b\"" =
      .ok ⟨[("index", "a\":b"), ("i\u0307δος", "")], by decide +kernel⟩ := by
    decide +kernel
  have again := (parse_write_of_parse read).2 [("i\u0307δος", ""), ("index", "a\":b")]
    (.swap _ _ _)
  exact ⟨_, rfl, read, again⟩

end EntityBinding.Tag
