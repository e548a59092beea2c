import EntityBinding.Proofs.TagLanguage

/-!
# Changes of a tag

What becomes of the entries of a tag if one word of it is changed.

* A word is written at the end of a tag, or as the tag of a field that had none (`Extends`).  If it
  is well formed and its name is new, its entry is put to those of the tag
  (`parseOptional_of_extends`).  White space alone makes no word of a tag of its own.
* The value of a word is replaced (`Revalues`).  The new value, without the white space at its ends,
  takes the place of the old one among the entries (`parse_of_revalues`).

Either change leaves a tag that could not be read with the same error.
-/

namespace EntityBinding.Tag

open Text (lowercase trim isBlank isWhiteSpace)

/-! ## Changes -/

/-- A text between backticks. -/
def wrap (inner : List Char) : String := String.ofList ('\x60' :: (inner ++ ['\x60']))

/-- A name with a value in double quotes. -/
def valued (name value : List Char) : List Char := name ++ ':' :: '"' :: (value ++ ['"'])

/-- A text that is one word: it has characters, and no space is among them. -/
structure IsWord (word : List Char) : Prop where
  /-- The word has characters. -/
  nonempty : word ≠ []
  /-- No space is among them. -/
  noSpace : ' ' ∉ word

instance (word : List Char) : Decidable (IsWord word) :=
  decidable_of_iff (word ≠ [] ∧ ' ' ∉ word) ⟨fun h => ⟨h.1, h.2⟩, fun h => ⟨h.1, h.2⟩⟩

/-- The names that stand in the tag of a field, in small letters. -/
def namesIn : Option String → List String
  | none => []
  | some tag => (words (body tag.toList)).map smallName

/-- The tag of a field gets one word more. -/
inductive Extends (word : List Char) : Option String → String → Prop
  /-- A field that has no tag gets one of this word alone. -/
  | first : Extends word none (wrap word)
  /-- The word stands behind those of the tag. -/
  | further {inner : List Char} : isBlank inner = false →
      Extends word (some (wrap inner)) (wrap (inner ++ ' ' :: word))

/-- A body in which a word of a certain name gets another value. -/
inductive BodyRevalues (name : String) (value : List Char) : List Char → List Char → Prop
  | intro {left written old right : List Char} :
      (left = [] ∨ ∃ l, left = l ++ [' ']) → (right = [] ∨ ∃ r, right = ' ' :: r) →
      ' ' ∉ written → ':' ∉ written → String.ofList (lowercase written) = name → ' ' ∉ old →
      BodyRevalues name value (left ++ (valued written old ++ right))
        (left ++ (valued written value ++ right))

/-- A tag in which a word of a certain name gets another value. -/
inductive Revalues (name : String) (value : List Char) : String → String → Prop
  /-- The word stands between backticks or double quotes. -/
  | wrapped {c : Char} {inner inner' : List Char} : (c = '\x60' ∨ c = '"') →
      BodyRevalues name value inner inner' →
      Revalues name value (String.ofList (c :: (inner ++ [c])))
        (String.ofList (c :: (inner' ++ [c])))
  /-- Nothing is around the tag. -/
  | bare {tag tag' : List Char} : (∀ inner, ¬Wrapped tag inner) →
      BodyRevalues name value tag tag' →
      Revalues name value (String.ofList tag) (String.ofList tag')

/-! ## Words -/

theorem words_append_space (x y : List Char) : words (x ++ ' ' :: y) = words x ++ words y := by
  have split : (x ++ ' ' :: y).splitOn ' ' = x.splitOn ' ' ++ y.splitOn ' ' :=
    List.splitOnP_append_cons x y (beq_self_eq_true ' ')
  rw [words, split, List.filter_append]
  rfl

theorem IsWord.words {word : List Char} (one : IsWord word) : words word = [word] := by
  have single : word.splitOn ' ' = [word] :=
    List.splitOnP_eq_singleton fun c hc =>
      beq_eq_false_iff_ne.2 (ne_of_mem_of_not_mem hc one.noSpace)
  rw [Tag.words, single]
  simp [one.nonempty]

/-- A word between spaces stands among the words. -/
theorem words_between {left word right : List Char} (start : left = [] ∨ ∃ l, left = l ++ [' '])
    (stop : right = [] ∨ ∃ r, right = ' ' :: r) (one : IsWord word) :
    words (left ++ (word ++ right)) = words left ++ word :: words right := by
  have behind : words (word ++ right) = word :: words right := by
    rcases stop with rfl | ⟨r, rfl⟩
    · rw [List.append_nil, one.words]
      rfl
    · rw [words_append_space, one.words, ← List.nil_append (' ' :: r),
        words_append_space]
      rfl
  rcases start with rfl | ⟨l, rfl⟩
  · exact behind
  · rw [List.append_assoc, List.singleton_append, words_append_space, words_append_space, behind]
    simp [words]

/-! ## Collected entries -/

/-- A well-formed word with a new name adds its entry at the end. -/
theorem collect_append_singleton {ws : List (List Char)} {word : List Char} {name value : String}
    (reads : Reads word (name, value)) (fresh : name ∉ ws.map smallName) :
    collect .empty (ws ++ [word]) = (collect .empty ws).map (·.insert name value) := by
  rw [collect_append]
  cases collected : collect .empty ws with
  | error e => rfl
  | ok a =>
      have notContained : ¬a.contains name = true := by
        rwa [contains_iff_of_collect collected]
      show collect a [word] = .ok (a.insert name value)
      rw [collect, entry_of_reads reads]
      dsimp only
      rw [if_neg notContained]
      rfl

/-- Another value of an entry that was found before makes no difference to the words behind it. -/
theorem collect_insert_of_contains {name : String} (value : String) :
    ∀ (ws : List (List Char)) {found : Annotations}, found.contains name = true →
      collect (found.insert name value) ws = (collect found ws).map (·.insert name value)
  | [], _, _ => rfl
  | word :: rest, found, contained => by
      rw [collect, collect]
      cases entry word with
      | error e => rfl
      | ok e =>
          obtain ⟨n, v⟩ := e
          dsimp only
          have same : (found.insert name value).contains n = found.contains n := by
            by_cases eq : n = name
            · rw [eq, contained, Annotations.contains_insert_self]
            · exact found.contains_insert_of_ne value eq
          rw [same]
          split
          next => rfl
          next free =>
            have other : name ≠ n := fun eq => free (eq ▸ contained)
            have kept : (found.insert n v).contains name = true := by
              rw [found.contains_insert_of_ne v other, contained]
            rw [Annotations.insert_comm _ other, collect_insert_of_contains value rest kept]

/-- Another value of a word changes the value of its entry. -/
theorem collect_replace {word word' : List Char} {name value value' : String}
    (reads : Reads word (name, value)) (reads' : Reads word' (name, value'))
    (before after : List (List Char)) :
    collect .empty (before ++ word' :: after) =
      (collect .empty (before ++ word :: after)).map (·.insert name value') := by
  rw [collect_append, collect_append]
  cases collect .empty before with
  | error e => rfl
  | ok a =>
      show collect a (word' :: after) = (collect a (word :: after)).map _
      rw [collect, collect, entry_of_reads reads, entry_of_reads reads']
      dsimp only
      split
      next => rfl
      next =>
        have contained := a.contains_insert_self name value
        rw [← collect_insert_of_contains value' after contained, Annotations.insert_insert]

/-! ## One word more -/

theorem body_wrap (inner : List Char) : body (wrap inner).toList = inner :=
  body_of_wrapped ⟨'\x60', .inl rfl, String.toList_ofList⟩

/-- White space alone makes no entry. -/
theorem parse_wrap_of_blank {word : List Char} (blank : isBlank word = true) :
    parse (wrap word) = .ok .empty := by
  apply parse_of_blank
  rw [body_wrap]
  exact List.all_eq_true.1 blank

theorem parse_wrap_of_not_blank {inner : List Char} (notBlank : isBlank inner = false) :
    parse (wrap inner) = collect .empty (words inner) := by
  have body := body_wrap inner
  rw [parse_of_not_blank, body]
  rw [body, ← List.all_eq_true]
  exact Bool.eq_false_iff.1 notBlank

/-- One word more puts its entry to those of the tag. -/
theorem parseOptional_of_extends {word : List Char} {name value new : String}
    {old : Option String} (extended : Extends word old new) (one : IsWord word)
    (reads : Reads word (name, value)) (fresh : name ∉ namesIn old)
    (notBlank : old = none → isBlank word = false) :
    parse new = (parseOptional old).map (·.insert name value) := by
  cases extended with
  | first =>
      have alone : name ∉ List.map smallName [] := List.not_mem_nil
      rw [parse_wrap_of_not_blank (notBlank rfl), one.words]
      exact collect_append_singleton reads alone
  | @further inner blankless =>
      have longer : isBlank (inner ++ ' ' :: word) = false := by
        rw [isBlank, List.all_append, show inner.all isWhiteSpace = false from blankless,
          Bool.false_and]
      rw [namesIn, body_wrap] at fresh
      rw [parseOptional, parse_wrap_of_not_blank longer, parse_wrap_of_not_blank blankless,
        words_append_space, one.words, collect_append_singleton reads fresh]

/-! ## Another value -/

theorem wrapped_iff_ends {tag : List Char} :
    (∃ inner, Wrapped tag inner) ↔
      ∃ c, (c = '\x60' ∨ c = '"') ∧ tag.head? = some c ∧ tag.getLast? = some c ∧ tag ≠ [c] := by
  constructor
  · rintro ⟨inner, c, delimiter, rfl⟩
    exact ⟨c, delimiter, rfl, List.getLast?_concat (l := c :: inner), by simp⟩
  · rintro ⟨c, delimiter, first, last, more⟩
    obtain ⟨rest, rfl⟩ := List.head?_eq_some_iff.1 first
    obtain ⟨init, split⟩ := List.getLast?_eq_some_iff.1 last
    cases init with
    | nil => exact absurd split more
    | cons d inner =>
        obtain ⟨rfl, rfl⟩ := List.cons.inj split
        exact ⟨inner, c, delimiter, rfl⟩

/-- Another value leaves the ends of a body as they are, so it leaves a tag bare. -/
theorem BodyRevalues.not_wrapped {name : String} {value tag tag' : List Char}
    (revalued : BodyRevalues name value tag tag') (bare : ∀ inner, ¬Wrapped tag inner) :
    ∀ inner, ¬Wrapped tag' inner := by
  rw [← not_exists, wrapped_iff_ends] at bare ⊢
  cases revalued with
  | @intro left written old right =>
      have first : ∀ value, (left ++ (valued written value ++ right)).head? =
          left.head?.or (written.head?.or (some ':')) := by
        intro value
        simp [valued, List.head?_append]
      have last : ∀ value, (left ++ (valued written value ++ right)).getLast? =
          some (right.getLast?.getD '"') := by
        intro value
        have quote : left ++ (valued written value ++ right) =
            (left ++ written ++ ':' :: '"' :: value) ++ '"' :: right := by
          simp [valued]
        rw [quote, List.getLast?_append, List.getLast?_cons, Option.some_or]
      have long : ∀ value c, left ++ (valued written value ++ right) ≠ [c] := by
        intro value c single
        have length := congrArg List.length single
        simp [valued] at length
        omega
      rintro ⟨c, delimiter, first', last', -⟩
      refine bare ⟨c, delimiter, ?_, ?_, long old c⟩
      · rw [first] at first' ⊢
        exact first'
      · rw [last] at last' ⊢
        exact last'

/-- The bodies of the tags differ in the value. -/
theorem Revalues.bodies {name : String} {value : List Char} {old new : String}
    (revalued : Revalues name value old new) :
    BodyRevalues name value (body old.toList) (body new.toList) := by
  cases revalued with
  | @wrapped c inner inner' delimiter revalued =>
      have read : ∀ inner, body (String.ofList (c :: (inner ++ [c]))).toList = inner :=
        fun inner => body_of_wrapped ⟨c, delimiter, String.toList_ofList⟩
      rwa [read, read]
  | bare bare revalued =>
      rwa [String.toList_ofList, String.toList_ofList, body_of_not_wrapped bare,
        body_of_not_wrapped (revalued.not_wrapped bare)]

/-- The words differ in the value. -/
theorem BodyRevalues.words {name : String} {value inner inner' : List Char}
    (revalued : BodyRevalues name value inner inner') (noSpace : ' ' ∉ value) :
    ∃ before word word' after old, words inner = before ++ word :: after ∧
      words inner' = before ++ word' :: after ∧ Reads word (name, old) ∧
      Reads word' (name, String.ofList (trim value)) := by
  cases revalued with
  | @intro left written old right start stop noSpaceName noColon small noSpaceOld =>
      subst small
      have split : ∀ value, ' ' ∉ value → Tag.words (left ++ (valued written value ++ right)) =
          Tag.words left ++ valued written value :: Tag.words right := by
        intro value noSpace
        exact words_between start stop
          ⟨by simp [valued], by simp [valued, noSpaceName, noSpace]⟩
      exact ⟨_, _, _, _, _, split old noSpaceOld, split value noSpace, .valued noColon,
        .valued noColon⟩

/-- A body with a value is not blank, whatever the value is. -/
theorem BodyRevalues.not_blank {name : String} {value inner inner' : List Char}
    (revalued : BodyRevalues name value inner inner') :
    (¬∀ c ∈ inner, isWhiteSpace c = true) ∧ ¬∀ c ∈ inner', isWhiteSpace c = true := by
  cases revalued with
  | @intro left written old right =>
      have colon : ∀ value, ¬∀ c ∈ left ++ (valued written value ++ right),
          isWhiteSpace c = true := by
        intro value blank
        exact absurd (blank ':' (by simp [valued])) (by decide)
      exact ⟨colon old, colon value⟩

/-- Another value takes the place of the old one. -/
theorem parse_of_revalues {name : String} {value : List Char} {old new : String}
    (revalued : Revalues name value old new) (noSpace : ' ' ∉ value) :
    parse new = (parse old).map (·.insert name (String.ofList (trim value))) := by
  have notBlank := revalued.bodies.not_blank
  obtain ⟨before, word, word', after, _, split, split', reads, reads'⟩ :=
    revalued.bodies.words noSpace
  rw [parse_of_not_blank notBlank.1, parse_of_not_blank notBlank.2, split, split',
    collect_replace reads reads' before after]

/-- The entry is there before and after. -/
theorem contains_of_revalues {name : String} {value : List Char} {old new : String}
    {a : Annotations} (revalued : Revalues name value old new) (noSpace : ' ' ∉ value)
    (read : parse old = .ok a) : a.contains name = true := by
  obtain ⟨before, word, word', after, _, split, -, reads, -⟩ := revalued.bodies.words noSpace
  rw [parse_of_not_blank revalued.bodies.not_blank.1] at read
  rw [contains_iff_of_collect read, split, show name = smallName word from smallName_of_reads reads]
  exact List.mem_map_of_mem (List.mem_append_right before List.mem_cons_self)

end EntityBinding.Tag
