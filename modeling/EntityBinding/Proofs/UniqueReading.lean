import EntityBinding.Declaration.TypeExpr
import EntityBinding.Proofs.SeparatedItems

/-!
# Canonical texts are read in one way

Types are looked up by their canonical text, so two type expressions with one text are the same to
all that comes after.  If their names and lengths are plain (`TypeExpr.isPlain`), then they are the
same in all but the tags of struct fields (`TypeExpr.text_eq_text_iff`).

The text of a type expression is no bracketed term.  A pointer has no end of its own, a function may
have no result, one without parentheses or several in them, and the names of a field come before
its type with nothing but spaces and commas between them.  So the proof looks at a text with more
text behind it.

*Shapes.*  The word at the head of such a text and the sign behind the word tell which kind of type
expression it starts with (`TypeExpr.readShape_text`).

*Parts.*  A part *reads alone* if its text and what stands behind it can be told apart
(`ReadsAlone`).  Items that read alone do so in a list between separators and a closing sign
(`Separates.joined_unique`).  There is one lemma for each kind of type expression, which says that
it reads alone if its parts do.
-/

namespace EntityBinding

open Text (joinWith)

/-! ## Plain type expressions -/

/-- The signs that canonical texts are written with. -/
def textSigns : List Char := [' ', ',', ';', '.', '*', '(', ')', '[', ']', '\x7b', '\x7d']

/-- The words that canonical texts are written with. -/
def textKeywords : List String := ["map", "chan", "struct", "interface", "func"]

/-- Whether a character can stand in a word. -/
def isWordChar (c : Char) : Bool := !textSigns.contains c

/-- Whether a text is a word that can be told from the keywords. -/
def isPlainName (name : String) : Bool :=
  !name.isEmpty && name.toList.all isWordChar && !textKeywords.contains name

/-- Whether a length is missing, or is a text that the bracket behind it can be told from. -/
def isPlainLength : Option String → Bool
  | none => true
  | some length => !length.isEmpty && !length.toList.contains ']'

/-- Identifiers are words. -/
example : (textSigns.all fun c => !c.isAlphanum && c != '_') = true := rfl

mutual

/-- Whether all names and lengths in a type expression are plain. -/
def TypeExpr.isPlain : TypeExpr → Bool
  | .ident name => isPlainName name
  | .selector package name => isPlainName package && isPlainName name
  | .pointer elem => elem.isPlain
  | .array length elem => isPlainLength length && elem.isPlain
  | .map key value => key.isPlain && value.isPlain
  | .channel elem => elem.isPlain
  | .struct fields => FieldGroup.allPlain fields
  | .anything => true
  | .function params results => TypeExpr.allPlain params && TypeExpr.allPlain results
  | .variadic elem => elem.isPlain

/-- Whether some type expressions are plain. -/
def TypeExpr.allPlain : List TypeExpr → Bool
  | [] => true
  | t :: ts => t.isPlain && TypeExpr.allPlain ts

/-- Whether all names and lengths in a field group are plain. -/
def FieldGroup.isPlain : FieldGroup → Bool
  | ⟨names, type, _⟩ => names.all isPlainName && type.isPlain

/-- Whether some field groups are plain. -/
def FieldGroup.allPlain : List FieldGroup → Bool
  | [] => true
  | f :: fs => f.isPlain && FieldGroup.allPlain fs

end

mutual

/-- A type expression without the tags of struct fields. -/
def TypeExpr.untagged : TypeExpr → TypeExpr
  | .ident name => .ident name
  | .selector package name => .selector package name
  | .pointer elem => .pointer elem.untagged
  | .array length elem => .array length elem.untagged
  | .map key value => .map key.untagged value.untagged
  | .channel elem => .channel elem.untagged
  | .struct fields => .struct (FieldGroup.allUntagged fields)
  | .anything => .anything
  | .function params results =>
      .function (TypeExpr.allUntagged params) (TypeExpr.allUntagged results)
  | .variadic elem => .variadic elem.untagged

/-- Type expressions without the tags of struct fields. -/
def TypeExpr.allUntagged : List TypeExpr → List TypeExpr
  | [] => []
  | t :: ts => t.untagged :: TypeExpr.allUntagged ts

/-- A field group without its tag, and without those in its type. -/
def FieldGroup.untagged : FieldGroup → FieldGroup
  | ⟨names, type, _⟩ => ⟨names, type.untagged, none⟩

/-- Field groups without their tags. -/
def FieldGroup.allUntagged : List FieldGroup → List FieldGroup
  | [] => []
  | f :: fs => f.untagged :: FieldGroup.allUntagged fs

end

mutual

/-- Tags are no part of the text. -/
theorem TypeExpr.text_untagged : ∀ t : TypeExpr, t.untagged.text = t.text
  | .ident _ => rfl
  | .selector _ _ => rfl
  | .pointer elem => by simp only [TypeExpr.untagged, TypeExpr.text, elem.text_untagged]
  | .array _ elem => by simp only [TypeExpr.untagged, TypeExpr.text, elem.text_untagged]
  | .map key value => by
      simp only [TypeExpr.untagged, TypeExpr.text, key.text_untagged, value.text_untagged]
  | .channel elem => by simp only [TypeExpr.untagged, TypeExpr.text, elem.text_untagged]
  | .struct fields => by
      simp only [TypeExpr.untagged, TypeExpr.text, FieldGroup.texts_allUntagged fields]
  | .anything => rfl
  | .function params results => by
      simp only [TypeExpr.untagged, TypeExpr.text, TypeExpr.texts_allUntagged params,
        TypeExpr.texts_allUntagged results]
  | .variadic elem => by simp only [TypeExpr.untagged, TypeExpr.text, elem.text_untagged]

theorem TypeExpr.texts_allUntagged : ∀ ts : List TypeExpr,
    TypeExpr.texts (TypeExpr.allUntagged ts) = TypeExpr.texts ts
  | [] => rfl
  | t :: ts => by
      simp only [TypeExpr.allUntagged, TypeExpr.texts, t.text_untagged,
        TypeExpr.texts_allUntagged ts]

theorem FieldGroup.text_untagged : ∀ f : FieldGroup, f.untagged.text = f.text
  | ⟨_, type, _⟩ => by
      simp only [FieldGroup.untagged, FieldGroup.text, type.text_untagged]

theorem FieldGroup.texts_allUntagged : ∀ fs : List FieldGroup,
    FieldGroup.texts (FieldGroup.allUntagged fs) = FieldGroup.texts fs
  | [] => rfl
  | f :: fs => by
      simp only [FieldGroup.allUntagged, FieldGroup.texts, f.text_untagged,
        FieldGroup.texts_allUntagged fs]

end

/-! ## Lists -/

theorem TypeExpr.texts_eq_map : ∀ ts : List TypeExpr, TypeExpr.texts ts = ts.map TypeExpr.text
  | [] => rfl
  | t :: ts => congrArg (t.text :: ·) (TypeExpr.texts_eq_map ts)

theorem TypeExpr.allUntagged_eq_map : ∀ ts : List TypeExpr,
    TypeExpr.allUntagged ts = ts.map TypeExpr.untagged
  | [] => rfl
  | t :: ts => congrArg (t.untagged :: ·) (TypeExpr.allUntagged_eq_map ts)

theorem TypeExpr.allPlain_iff : ∀ {ts : List TypeExpr},
    TypeExpr.allPlain ts = true ↔ ∀ t ∈ ts, t.isPlain = true
  | [] => by simp [TypeExpr.allPlain]
  | t :: ts => by simp [TypeExpr.allPlain, TypeExpr.allPlain_iff]

theorem FieldGroup.texts_eq_map : ∀ fs : List FieldGroup,
    FieldGroup.texts fs = fs.map FieldGroup.text
  | [] => rfl
  | f :: fs => congrArg (f.text :: ·) (FieldGroup.texts_eq_map fs)

theorem FieldGroup.allUntagged_eq_map : ∀ fs : List FieldGroup,
    FieldGroup.allUntagged fs = fs.map FieldGroup.untagged
  | [] => rfl
  | f :: fs => congrArg (f.untagged :: ·) (FieldGroup.allUntagged_eq_map fs)

theorem FieldGroup.allPlain_iff : ∀ {fs : List FieldGroup},
    FieldGroup.allPlain fs = true ↔ ∀ f ∈ fs, f.isPlain = true
  | [] => by simp [FieldGroup.allPlain]
  | f :: fs => by simp [FieldGroup.allPlain, FieldGroup.allPlain_iff]

/-! ## Names and lengths -/

theorem isPlainName_iff {name : String} :
    isPlainName name = true ↔
      name ≠ "" ∧ (∀ c ∈ name.toList, isWordChar c = true) ∧ name ∉ textKeywords := by
  simp [isPlainName, and_assoc]

theorem not_isWordChar_of_startsIn {text : List Char} (h : StartsIn textSigns text) :
    ∀ c ∈ text.head?, isWordChar c = false := by
  intro c hc
  simp [isWordChar, h c hc]

/-- A plain name is read up to the sign behind it. -/
theorem name_readsAlone (name : String) : ReadsAlone id isPlainName id textSigns name := by
  intro plain other r s plain' hr hs same
  obtain ⟨letters, rest⟩ := run_unique (isPlainName_iff.1 plain).2.1 (isPlainName_iff.1 plain').2.1
    (not_isWordChar_of_startsIn hr) (not_isWordChar_of_startsIn hs) same
  exact ⟨String.toList_injective letters, rest⟩

/-- A plain name starts with no sign. -/
theorem name_opens {name : String} (plain : isPlainName name = true) {c : Char}
    (sign : c ∈ textSigns) (r s : List Char) : name.toList ++ r ≠ c :: s := by
  obtain ⟨nonempty, letters, -⟩ := isPlainName_iff.1 plain
  cases chars : name.toList with
  | nil => exact absurd (String.toList_eq_nil_iff.1 chars) nonempty
  | cons d rest =>
      rintro same
      obtain ⟨rfl, -⟩ := List.cons.inj same
      have word := letters d (by simp [chars])
      simp [isWordChar, sign] at word

theorem bracket_not_mem_of_isPlainLength {length : Option String}
    (plain : isPlainLength length = true) : ']' ∉ (length.getD "").toList := by
  cases length with
  | none => exact List.not_mem_nil
  | some l => simpa [isPlainLength] using (Bool.and_eq_true_iff.1 plain).2

/-- Plain lengths with one text are the same. -/
theorem eq_of_getD_eq {length other : Option String} (plain : isPlainLength length = true)
    (plain' : isPlainLength other = true) (same : length.getD "" = other.getD "") :
    length = other := by
  have nonempty : ∀ {l : String}, isPlainLength (some l) = true → l ≠ "" := by
    intro l plain
    simpa using (Bool.and_eq_true_iff.1 plain).1
  cases length with
  | none =>
      cases other with
      | none => rfl
      | some l => exact absurd same.symm (nonempty plain')
  | some k =>
      cases other with
      | none => exact absurd same (nonempty plain)
      | some l => exact congrArg some same

/-- A plain length is read up to the bracket behind it. -/
theorem length_unique {length other : Option String} (plain : isPlainLength length = true)
    (plain' : isPlainLength other = true) {r s : List Char}
    (same : (length.getD "").toList ++ ']' :: r = (other.getD "").toList ++ ']' :: s) :
    length = other ∧ r = s := by
  have inside : ∀ {l : Option String}, isPlainLength l = true →
      ∀ c ∈ (l.getD "").toList, (c != ']') = true := by
    intro l plain c hc
    rw [bne_iff_ne]
    rintro rfl
    exact bracket_not_mem_of_isPlainLength plain hc
  have behind : ∀ {t : List Char}, ∀ c ∈ (']' :: t).head?, (c != ']') = false := by
    intro t c hc
    cases hc
    rfl
  obtain ⟨text, rest⟩ := run_unique (inside plain) (inside plain') behind behind same
  exact ⟨eq_of_getD_eq plain plain' (String.toList_injective text), (List.cons.inj rest).2⟩

/-! ## Shapes -/

namespace TypeExpr

/-- The kinds of type expressions. -/
inductive Shape where
  | name | member | pointer | array | map | channel | struct | anything | function | variadic

/-- The kind of a type expression. -/
def shape : TypeExpr → Shape
  | .ident _ => .name
  | .selector _ _ => .member
  | .pointer _ => .pointer
  | .array _ _ => .array
  | .map _ _ => .map
  | .channel _ => .channel
  | .struct _ => .struct
  | .anything => .anything
  | .function _ _ => .function
  | .variadic _ => .variadic

/-- The kind of the type expression that a text starts with, by its first word and by the sign
behind the word. -/
def readShape (text : List Char) : Shape :=
  match String.ofList (text.takeWhile isWordChar), (text.dropWhile isWordChar).head? with
  | "", some '*' => .pointer
  | "", some '[' => .array
  | "", _ => .variadic
  | "map", _ => .map
  | "chan", _ => .channel
  | "struct", _ => .struct
  | "interface", _ => .anything
  | "func", _ => .function
  | _, some '.' => .member
  | _, _ => .name

/-- The signs that can stand behind a type expression. -/
def follow : List Char := [',', ';', ')', ']', '\x7d']

theorem follow_subset : follow ⊆ textSigns := by decide

theorem readShape_name {name : String} (plain : isPlainName name = true) {r : List Char}
    (signs : StartsIn textSigns r) :
    readShape (name.toList ++ r) = if r.head? = some '.' then .member else .name := by
  obtain ⟨nonempty, letters, noKeyword⟩ := isPlainName_iff.1 plain
  have stop := not_isWordChar_of_startsIn signs
  have behind : r.takeWhile isWordChar = [] ∧ r.dropWhile isWordChar = r := by
    cases r with
    | nil => exact ⟨rfl, rfl⟩
    | cons c r => simp [stop c rfl]
  simp only [textKeywords, List.mem_cons, List.not_mem_nil, or_false, not_or] at noKeyword
  obtain ⟨noMap, noChan, noStruct, noInterface, noFunc⟩ := noKeyword
  rw [readShape, List.takeWhile_append_of_pos letters, List.dropWhile_append_of_pos letters,
    behind.1, behind.2, List.append_nil, String.ofList_toList]
  split <;> simp_all

/-- The kind of a plain type expression is read off its text. -/
theorem readShape_text {t : TypeExpr} (plain : t.isPlain = true) {r : List Char}
    (signs : StartsIn follow r) : readShape (t.text.toList ++ r) = t.shape := by
  cases t with
  | ident name =>
      rw [text, readShape_name plain (signs.mono follow_subset), if_neg, shape]
      intro dot
      exact absurd (signs '.' dot) (by decide)
  | selector package name =>
      obtain ⟨plain, -⟩ := Bool.and_eq_true_iff.1 plain
      have chars : (selector package name).text.toList ++ r =
          package.toList ++ '.' :: (name.toList ++ r) := by
        simp [text]
      rw [chars, readShape_name plain (startsIn_cons _ (by decide))]
      rfl
  | pointer elem => simp [text]; rfl
  | array length elem => simp [text]; rfl
  | map key value => simp [text]; rfl
  | channel elem => simp [text]; rfl
  | struct fields => simp [text]; rfl
  | anything => rfl
  | function params results => simp [text]; rfl
  | variadic elem => simp [text]; rfl

/-! ## Type expressions -/

/-- The text of a type expression is read in one way. -/
abbrev IsUnambiguous (t : TypeExpr) : Prop := ReadsAlone text isPlain untagged follow t

theorem shape_eq {t u : TypeExpr} (plain : t.isPlain = true) (plain' : u.isPlain = true)
    {r s : List Char} (hr : StartsIn follow r) (hs : StartsIn follow s)
    (same : t.text.toList ++ r = u.text.toList ++ s) : t.shape = u.shape := by
  rw [← readShape_text plain hr, ← readShape_text plain' hs, same]

/-- A plain type expression starts with none of these signs. -/
theorem text_opens {t : TypeExpr} (plain : t.isPlain = true) {c : Char}
    (sign : c ∈ [' ', '(', ')', '\x7d']) (r s : List Char) : t.text.toList ++ r ≠ c :: s := by
  intro same
  have textSign : c ∈ textSigns :=
    (show [' ', '(', ')', '\x7d'] ⊆ textSigns from by decide) sign
  have first : ∀ d, (t.text.toList ++ r).head? = some d → d ∉ [' ', '(', ')', '\x7d'] → False := by
    intro d head other
    rw [same] at head
    cases head
    exact other sign
  cases t with
  | ident name => exact name_opens plain textSign r s same
  | selector package name =>
      obtain ⟨plain, -⟩ := Bool.and_eq_true_iff.1 plain
      rw [text, String.toList_append, List.append_assoc, String.toList_append,
        List.append_assoc] at same
      exact name_opens plain textSign _ s same
  | pointer elem => exact first '*' (by simp [text]) (by decide)
  | array length elem => exact first '[' (by simp [text]) (by decide)
  | map key value => exact first 'm' (by simp [text]) (by decide)
  | channel elem => exact first 'c' (by simp [text]) (by decide)
  | struct fields => exact first 's' (by simp [text]) (by decide)
  | anything => exact first 'i' (by simp [text]) (by decide)
  | function params results => exact first 'f' (by simp [text]) (by decide)
  | variadic elem => exact first '.' (by simp [text]) (by decide)

theorem isUnambiguous_ident (name : String) : (ident name).IsUnambiguous := by
  intro plain u r s plain' hr hs same
  have shape := shape_eq plain plain' hr hs same
  cases u with
  | ident other =>
      obtain ⟨name, rest⟩ :=
        name_readsAlone name plain plain' (hr.mono follow_subset) (hs.mono follow_subset) same
      exact ⟨congrArg TypeExpr.ident name, rest⟩
  | _ => cases shape

theorem isUnambiguous_selector (package name : String) :
    (selector package name).IsUnambiguous := by
  intro plain u r s plain' hr hs same
  have shape := shape_eq plain plain' hr hs same
  cases u with
  | selector package' name' =>
      obtain ⟨plainPackage, plainName⟩ := Bool.and_eq_true_iff.1 plain
      obtain ⟨plainPackage', plainName'⟩ := Bool.and_eq_true_iff.1 plain'
      have same : package.toList ++ '.' :: (name.toList ++ r) =
          package'.toList ++ '.' :: (name'.toList ++ s) := by
        simpa [text] using same
      obtain ⟨package, same⟩ := name_readsAlone package plainPackage plainPackage'
        (startsIn_cons _ (by decide)) (startsIn_cons _ (by decide)) same
      obtain ⟨name, rest⟩ := name_readsAlone name plainName plainName' (hr.mono follow_subset)
        (hs.mono follow_subset) (List.cons.inj same).2
      exact ⟨congrArg₂ TypeExpr.selector package name, rest⟩
  | _ => cases shape

/-- What stands behind the text of an operator is read as by itself. -/
theorem isUnambiguous_of_operator {op : TypeExpr → TypeExpr} {spelling : String}
    (spelled : ∀ t, (op t).text = spelling ++ t.text) (plains : ∀ t, (op t).isPlain = t.isPlain)
    (bare : ∀ t, (op t).untagged = op t.untagged)
    (only : ∀ t u, (op t).shape = u.shape → ∃ v, u = op v)
    {elem : TypeExpr} (h : elem.IsUnambiguous) : (op elem).IsUnambiguous := by
  intro plain u r s plain' hr hs same
  obtain ⟨other, rfl⟩ := only elem u (shape_eq plain plain' hr hs same)
  rw [plains] at plain plain'
  rw [spelled, spelled, String.toList_append, String.toList_append, List.append_assoc,
    List.append_assoc, List.append_cancel_left_eq] at same
  obtain ⟨elem, rest⟩ := h plain plain' hr hs same
  rw [bare, bare, elem]
  exact ⟨rfl, rest⟩

theorem isUnambiguous_array (length : Option String) {elem : TypeExpr} (h : elem.IsUnambiguous) :
    (array length elem).IsUnambiguous := by
  intro plain u r s plain' hr hs same
  have shape := shape_eq plain plain' hr hs same
  cases u with
  | array length' other =>
      obtain ⟨plainLength, plain⟩ := Bool.and_eq_true_iff.1 plain
      obtain ⟨plainLength', plain'⟩ := Bool.and_eq_true_iff.1 plain'
      have same : (length.getD "").toList ++ ']' :: (elem.text.toList ++ r) =
          (length'.getD "").toList ++ ']' :: (other.text.toList ++ s) := by
        simpa [text] using same
      obtain ⟨length, same⟩ := length_unique plainLength plainLength' same
      obtain ⟨elem, rest⟩ := h plain plain' hr hs same
      exact ⟨congrArg₂ TypeExpr.array length elem, rest⟩
  | _ => cases shape

theorem isUnambiguous_map {key value : TypeExpr} (hk : key.IsUnambiguous)
    (hv : value.IsUnambiguous) : (map key value).IsUnambiguous := by
  intro plain u r s plain' hr hs same
  have shape := shape_eq plain plain' hr hs same
  cases u with
  | map key' value' =>
      obtain ⟨plainKey, plainValue⟩ := Bool.and_eq_true_iff.1 plain
      obtain ⟨plainKey', plainValue'⟩ := Bool.and_eq_true_iff.1 plain'
      have same : key.text.toList ++ ']' :: (value.text.toList ++ r) =
          key'.text.toList ++ ']' :: (value'.text.toList ++ s) := by
        simpa [text] using same
      obtain ⟨key, same⟩ := hk plainKey plainKey' (startsIn_cons _ (by decide))
        (startsIn_cons _ (by decide)) same
      obtain ⟨value, rest⟩ := hv plainValue plainValue' hr hs (List.cons.inj same).2
      exact ⟨congrArg₂ TypeExpr.map key value, rest⟩
  | _ => cases shape

/-- Types stand between commas, with a parenthesis behind the last one. -/
theorem separates : Separates ", " ',' ')' follow :=
  ⟨rfl, by decide, by decide, by decide⟩

/-- Types between commas are read in one way up to the parenthesis behind them. -/
theorem list_unique {ts us : List TypeExpr} (h : ∀ t ∈ ts, t.IsUnambiguous)
    (plain : allPlain ts = true) (plain' : allPlain us = true) {r s : List Char}
    (same : (joinWith ", " (texts ts)).toList ++ ')' :: r =
      (joinWith ", " (texts us)).toList ++ ')' :: s) :
    allUntagged ts = allUntagged us ∧ r = s := by
  rw [texts_eq_map, texts_eq_map] at same
  rw [allUntagged_eq_map, allUntagged_eq_map]
  exact separates.joined_unique (fun plain => text_opens plain (by decide) _ _) h
    (allPlain_iff.1 plain) (allPlain_iff.1 plain') same

theorem toList_resultText (t u : TypeExpr) (ts : List TypeExpr) (r : List Char) :
    (resultText (texts (t :: u :: ts))).toList ++ r =
      ' ' :: '(' :: ((joinWith ", " (texts (t :: u :: ts))).toList ++ ')' :: r) := by
  simp [texts, resultText]

/-- The results of a function are read in one way. -/
theorem results_unique {ts us : List TypeExpr} (h : ∀ t ∈ ts, t.IsUnambiguous)
    (plain : allPlain ts = true) (plain' : allPlain us = true) {r s : List Char}
    (hr : StartsIn follow r) (hs : StartsIn follow s)
    (same : (resultText (texts ts)).toList ++ r = (resultText (texts us)).toList ++ s) :
    allUntagged ts = allUntagged us ∧ r = s := by
  have noSpace : ∀ {text rest : List Char}, StartsIn follow text → text ≠ ' ' :: rest := by
    rintro text rest signs rfl
    exact absurd (signs ' ' rfl) (by decide)
  have single : ∀ (t : TypeExpr) (r : List Char),
      (resultText (texts [t])).toList ++ r = ' ' :: (t.text.toList ++ r) := by
    intro t r
    simp [texts, resultText]
  -- No result, one result and several start with nothing, with a space and with a space and a
  -- parenthesis.
  match ts, us with
  | [], [] => exact ⟨rfl, same⟩
  | [], [u] =>
      rw [single] at same
      exact absurd same (noSpace hr)
  | [], u :: v :: us =>
      rw [toList_resultText] at same
      exact absurd same (noSpace hr)
  | [t], [] =>
      rw [single] at same
      exact absurd same.symm (noSpace hs)
  | [t], [u] =>
      rw [single, single, List.cons.injEq] at same
      have plain : t.isPlain = true := allPlain_iff.1 plain t List.mem_cons_self
      have plain' : u.isPlain = true := allPlain_iff.1 plain' u List.mem_cons_self
      obtain ⟨result, rest⟩ := h t List.mem_cons_self plain plain' hr hs same.2
      exact ⟨congrArg (fun x => [x]) result, rest⟩
  | [t], u :: v :: us =>
      rw [single, toList_resultText, List.cons.injEq] at same
      have plain : t.isPlain = true := allPlain_iff.1 plain t List.mem_cons_self
      exact absurd same.2 (text_opens plain (by decide) _ _)
  | t :: v :: ts, [] =>
      rw [toList_resultText] at same
      exact absurd same.symm (noSpace hs)
  | t :: v :: ts, [u] =>
      rw [single, toList_resultText, List.cons.injEq] at same
      have plain' : u.isPlain = true := allPlain_iff.1 plain' u List.mem_cons_self
      exact absurd same.2.symm (text_opens plain' (by decide) _ _)
  | t :: v :: ts, u :: w :: us =>
      rw [toList_resultText, toList_resultText] at same
      exact list_unique h plain plain' (List.cons.inj (List.cons.inj same).2).2

theorem isUnambiguous_function {params results : List TypeExpr}
    (hp : ∀ t ∈ params, t.IsUnambiguous) (hr : ∀ t ∈ results, t.IsUnambiguous) :
    (function params results).IsUnambiguous := by
  intro plain u r s plain' followsR followsS same
  have shape := shape_eq plain plain' followsR followsS same
  cases u with
  | function params' results' =>
      obtain ⟨plainParams, plainResults⟩ := Bool.and_eq_true_iff.1 plain
      obtain ⟨plainParams', plainResults'⟩ := Bool.and_eq_true_iff.1 plain'
      have same : (joinWith ", " (texts params)).toList ++
            ')' :: ((resultText (texts results)).toList ++ r) =
          (joinWith ", " (texts params')).toList ++
            ')' :: ((resultText (texts results')).toList ++ s) := by
        simpa [text] using same
      obtain ⟨params, same⟩ := list_unique hp plainParams plainParams' same
      obtain ⟨results, rest⟩ :=
        results_unique hr plainResults plainResults' followsR followsS same
      exact ⟨congrArg₂ TypeExpr.function params results, rest⟩
  | _ => cases shape

end TypeExpr

/-! ## Field groups -/

namespace FieldGroup

/-- The signs that can stand behind a field group. -/
def follow : List Char := [';', '\x7d']

theorem follow_subset : follow ⊆ TypeExpr.follow := by decide

/-- The signs that can stand behind the name of a field. -/
def nameFollow : List Char := [',', ' ']

theorem nameFollow_subset : nameFollow ⊆ textSigns := by decide

/-- A type expression is not taken for the name of a field. -/
theorem text_ne_name {t : TypeExpr} (plain : t.isPlain = true) {name : String}
    (plainName : isPlainName name = true) {r s : List Char} (hr : StartsIn follow r)
    (hs : StartsIn nameFollow s) (more : s ≠ []) : t.text.toList ++ r ≠ name.toList ++ s := by
  intro same
  have behind := hr.mono follow_subset
  have nameBehind := hs.mono nameFollow_subset
  have shape := TypeExpr.readShape_text plain behind
  have noDot : s.head? ≠ some '.' := fun dot => absurd (hs '.' dot) (by decide)
  rw [same, TypeExpr.readShape_name plainName nameBehind, if_neg noDot] at shape
  cases t with
  | ident other =>
      obtain ⟨-, rfl⟩ := name_readsAlone other plain plainName
        (behind.mono TypeExpr.follow_subset) nameBehind same
      obtain ⟨c, rest, rfl⟩ := List.exists_cons_of_ne_nil more
      have ends := hr c rfl
      simp only [follow, List.mem_cons, List.not_mem_nil, or_false] at ends
      rcases ends with rfl | rfl
      · exact absurd (hs _ rfl) (by decide)
      · exact absurd (hs _ rfl) (by decide)
  | _ => cases shape

/-- The text of a field group is read in one way. -/
abbrev IsUnambiguous (f : FieldGroup) : Prop := ReadsAlone text isPlain untagged follow f

theorem toList_text_names (name : String) (names : List String) (type : TypeExpr)
    (tag : Option String) (r : List Char) :
    (FieldGroup.mk (name :: names) type tag).text.toList ++ r =
      (joinWith ", " (name :: names)).toList ++ ' ' :: (type.text.toList ++ r) := by
  simp [text, namesText]

/-- Names stand between commas, with a space behind the last one. -/
theorem separates_names : Separates ", " ',' ' ' nameFollow :=
  ⟨rfl, by decide, by decide, by decide⟩

/-- Names between commas are read in one way up to the space behind them. -/
theorem names_unique {names others : List String} (plain : names.all isPlainName = true)
    (plain' : others.all isPlainName = true) {r s : List Char}
    (same : (joinWith ", " names).toList ++ ' ' :: r = (joinWith ", " others).toList ++ ' ' :: s) :
    names = others ∧ r = s := by
  rw [← List.map_id names, ← List.map_id others] at same ⊢
  refine separates_names.joined_unique (fun plain => name_opens plain (by decide) _ _)
    (fun name _ plain _ _ _ plain' hr hs => ?_) (List.all_eq_true.1 plain)
    (List.all_eq_true.1 plain') same
  exact name_readsAlone name plain plain' (hr.mono nameFollow_subset) (hs.mono nameFollow_subset)

/-- A field group with a name is not taken for an embedded field. -/
theorem text_ne_names {type type' : TypeExpr} (plain : type.isPlain = true) {name : String}
    {names : List String} (plainName : isPlainName name = true) {r s : List Char}
    (hr : StartsIn follow r) :
    type.text.toList ++ r ≠
      (joinWith ", " (name :: names)).toList ++ ' ' :: (type'.text.toList ++ s) := by
  rw [toList_joinWith_cons, List.append_assoc]
  refine text_ne_name plain plainName hr (separates_names.startsIn_tailText names _) ?_
  exact List.append_ne_nil_of_right_ne_nil _ (List.cons_ne_nil _ _)

/-- A field group is read in one way if its type is. -/
theorem isUnambiguous {f : FieldGroup} (h : f.type.IsUnambiguous) : f.IsUnambiguous := by
  intro plain g r s plain' hr hs same
  obtain ⟨names, type, tag⟩ := f
  obtain ⟨names', type', tag'⟩ := g
  obtain ⟨plainNames, plain⟩ := Bool.and_eq_true_iff.1 plain
  obtain ⟨plainNames', plain'⟩ := Bool.and_eq_true_iff.1 plain'
  have types : ∀ {r s : List Char}, StartsIn follow r → StartsIn follow s →
      type.text.toList ++ r = type'.text.toList ++ s → type.untagged = type'.untagged ∧ r = s :=
    fun hr hs => h plain plain' (hr.mono follow_subset) (hs.mono follow_subset)
  cases names with
  | nil =>
      cases names' with
      | nil =>
          obtain ⟨type, rest⟩ := types hr hs (by simpa [text, namesText] using same)
          exact ⟨congrArg (FieldGroup.mk [] · none) type, rest⟩
      | cons name names' =>
          rw [toList_text_names] at same
          have plainName := List.all_eq_true.1 plainNames' name List.mem_cons_self
          exact absurd (by simpa [text, namesText] using same) (text_ne_names plain plainName hr)
  | cons name names =>
      cases names' with
      | nil =>
          rw [toList_text_names] at same
          have plainName := List.all_eq_true.1 plainNames name List.mem_cons_self
          exact absurd (by simpa [text, namesText] using same.symm)
            (text_ne_names plain' plainName hs)
      | cons name' names' =>
          rw [toList_text_names, toList_text_names] at same
          obtain ⟨names, same⟩ := names_unique plainNames plainNames' same
          obtain ⟨type, rest⟩ := types hr hs same
          exact ⟨congrArg₂ (FieldGroup.mk · · none) names type, rest⟩

/-- Field groups stand between semicolons, with a brace behind the last one. -/
theorem separates : Separates "; " ';' '\x7d' follow :=
  ⟨rfl, by decide, by decide, by decide⟩

/-- A plain field group does not start with a brace. -/
theorem text_opens {f : FieldGroup} (plain : f.isPlain = true) (r s : List Char) :
    f.text.toList ++ r ≠ '\x7d' :: s := by
  obtain ⟨names, type, tag⟩ := f
  obtain ⟨plainNames, plain⟩ := Bool.and_eq_true_iff.1 plain
  cases names with
  | nil => simpa [text, namesText] using TypeExpr.text_opens plain (by decide) r s
  | cons name names =>
      have plainName := List.all_eq_true.1 plainNames name List.mem_cons_self
      rw [toList_text_names, toList_joinWith_cons, List.append_assoc]
      exact name_opens plainName (by decide) _ s

end FieldGroup

theorem TypeExpr.isUnambiguous_struct {fields : List FieldGroup}
    (h : ∀ f ∈ fields, f.IsUnambiguous) : (struct fields).IsUnambiguous := by
  intro plain u r s plain' hr hs same
  have shape := shape_eq plain plain' hr hs same
  cases u with
  | struct others =>
      have same : (joinWith "; " (FieldGroup.texts fields)).toList ++ '\x7d' :: r =
          (joinWith "; " (FieldGroup.texts others)).toList ++ '\x7d' :: s := by
        simpa [text] using same
      rw [FieldGroup.texts_eq_map, FieldGroup.texts_eq_map] at same
      obtain ⟨fields, rest⟩ := FieldGroup.separates.joined_unique
        (fun plain => FieldGroup.text_opens plain _ _) h (FieldGroup.allPlain_iff.1 plain)
        (FieldGroup.allPlain_iff.1 plain') same
      rw [untagged, untagged, FieldGroup.allUntagged_eq_map, FieldGroup.allUntagged_eq_map, fields]
      exact ⟨rfl, rest⟩
  | _ => cases shape

/-! ## All type expressions -/

theorem TypeExpr.isUnambiguous_anything : anything.IsUnambiguous := by
  intro plain u r s plain' hr hs same
  have shape := shape_eq plain plain' hr hs same
  cases u with
  | anything => exact ⟨rfl, List.append_cancel_left same⟩
  | _ => cases shape

theorem TypeExpr.isUnambiguous_pointer {elem : TypeExpr} (h : elem.IsUnambiguous) :
    (pointer elem).IsUnambiguous := by
  have spelled : ∀ t, (pointer t).text = "*" ++ t.text := fun _ => rfl
  have bare : ∀ t, (pointer t).untagged = pointer t.untagged := fun _ => rfl
  refine isUnambiguous_of_operator spelled (fun _ => rfl) bare (fun _ u shape => ?_) h
  cases u with
  | pointer other => exact ⟨other, rfl⟩
  | _ => cases shape

theorem TypeExpr.isUnambiguous_channel {elem : TypeExpr} (h : elem.IsUnambiguous) :
    (channel elem).IsUnambiguous := by
  have spelled : ∀ t, (channel t).text = "chan " ++ t.text := fun _ => rfl
  have bare : ∀ t, (channel t).untagged = channel t.untagged := fun _ => rfl
  refine isUnambiguous_of_operator spelled (fun _ => rfl) bare (fun _ u shape => ?_) h
  cases u with
  | channel other => exact ⟨other, rfl⟩
  | _ => cases shape

theorem TypeExpr.isUnambiguous_variadic {elem : TypeExpr} (h : elem.IsUnambiguous) :
    (variadic elem).IsUnambiguous := by
  have spelled : ∀ t, (variadic t).text = "..." ++ t.text := fun _ => rfl
  have bare : ∀ t, (variadic t).untagged = variadic t.untagged := fun _ => rfl
  refine isUnambiguous_of_operator spelled (fun _ => rfl) bare (fun _ u shape => ?_) h
  cases u with
  | variadic other => exact ⟨other, rfl⟩
  | _ => cases shape

mutual

/-- Every type expression is read in one way. -/
theorem TypeExpr.isUnambiguous : ∀ t : TypeExpr, t.IsUnambiguous
  | .ident name => TypeExpr.isUnambiguous_ident name
  | .selector package name => TypeExpr.isUnambiguous_selector package name
  | .pointer elem => TypeExpr.isUnambiguous_pointer elem.isUnambiguous
  | .array length elem => TypeExpr.isUnambiguous_array length elem.isUnambiguous
  | .map key value => TypeExpr.isUnambiguous_map key.isUnambiguous value.isUnambiguous
  | .channel elem => TypeExpr.isUnambiguous_channel elem.isUnambiguous
  | .struct fields => TypeExpr.isUnambiguous_struct (FieldGroup.allUnambiguous fields)
  | .anything => TypeExpr.isUnambiguous_anything
  | .function params results =>
      TypeExpr.isUnambiguous_function (TypeExpr.allUnambiguous params)
        (TypeExpr.allUnambiguous results)
  | .variadic elem => TypeExpr.isUnambiguous_variadic elem.isUnambiguous

theorem TypeExpr.allUnambiguous : ∀ ts : List TypeExpr, ∀ t ∈ ts, t.IsUnambiguous
  | [] => fun _ ht => nomatch ht
  | t :: ts => List.forall_mem_cons.2 ⟨t.isUnambiguous, TypeExpr.allUnambiguous ts⟩

theorem FieldGroup.allUnambiguous : ∀ fs : List FieldGroup, ∀ f ∈ fs, f.IsUnambiguous
  | [] => fun _ hf => nomatch hf
  | ⟨_, type, _⟩ :: fs =>
      List.forall_mem_cons.2
        ⟨FieldGroup.isUnambiguous type.isUnambiguous, FieldGroup.allUnambiguous fs⟩

end

/-- Plain type expressions have one text if and only if they are the same in all but the tags of
struct fields. -/
theorem TypeExpr.text_eq_text_iff {t u : TypeExpr} (plain : t.isPlain = true)
    (plain' : u.isPlain = true) : t.text = u.text ↔ t.untagged = u.untagged := by
  constructor
  · intro same
    have atEnd : StartsIn follow [] := fun c hc => nomatch hc
    exact (t.isUnambiguous plain plain' atEnd atEnd (by rw [same])).1
  · intro same
    rw [← t.text_untagged, ← u.text_untagged, same]

/-- `func(map[string][4]*T, ...time.Time) (struct{A, B chan T; U}, interface{})`, with a tag on the
first fields of the struct. -/
def TypeExpr.callback (tag : Option String) : TypeExpr :=
  let moments := [.map (.ident "string") (.array (some "4") (.pointer (.ident "T"))),
    .variadic (.selector "time" "Time")]
  let fields := [⟨["A", "B"], .channel (.ident "T"), tag⟩, ⟨[], .ident "U", none⟩]
  .function moments [.struct fields, .anything]

theorem TypeExpr.text_eq_text_iff_callback :
    (callback none).isPlain = true ∧ (callback (some "id")).isPlain = true ∧
      ((callback none).text = (callback (some "id")).text ↔
        (callback none).untagged = (callback (some "id")).untagged) :=
  ⟨rfl, rfl, text_eq_text_iff rfl rfl⟩

/-- A keyword is no plain name.  As the name of a field it reads as a part of an embedded type. -/
example :
    let field := TypeExpr.struct [⟨["chan"], .ident "T", none⟩]
    let embedded := TypeExpr.struct [⟨[], .channel (.ident "T"), none⟩]
    field.isPlain = false ∧ embedded.isPlain = true ∧ field.text = embedded.text :=
  ⟨rfl, rfl, rfl⟩

end EntityBinding
