import EntityBinding.Text.Lowercase
import EntityBinding.Text.WhiteSpace
import Mathlib.Data.List.DropRight

/-!
# Small and trimmed texts

Small letters and trimming are normal forms.

*Small letters.*  The small forms of one run of capitals never meet the capitals of another
(`capitals_avoid`), so no small form has a small form of its own (`lowerCode_lowerCode`), and the
two special characters are no small forms either.  Hence all characters of a text in small
letters are small (`isSmall_of_mem_lowercase`), and `lowercase` leaves such a text alone, also
where the rule for the final sigma looks at its neighbours.  Small forms lie at `a` or above, so
what lies below `a` in small letters was there before (`mem_of_mem_lowercase`).

*Trimming.*  A trimmed text neither starts nor ends with white space (`Trimmed`), and `trim`
leaves it alone.
-/

namespace EntityBinding.Text

/-! ## Runs of capitals -/

/-- No small form of the run is a capital of the other one: they lie apart, or every second code
point belongs to each and they have opposite parity. -/
def CaseRun.avoids (r other : CaseRun) : Bool :=
  Nat.blt (r.image + (r.last - r.first)) other.first || Nat.blt other.last r.image ||
    ((r.step == 2 || r.first == r.last) && other.step == 2 && (r.image + other.first) % 2 == 1)

theorem CaseRun.avoids_iff {r other : CaseRun} :
    r.avoids other = true ↔
      (r.image + (r.last - r.first) < other.first ∨ other.last < r.image) ∨
        ((r.step = 2 ∨ r.first = r.last) ∧ other.step = 2) ∧
          (r.image + other.first) % 2 = 1 := by
  simp only [avoids, Bool.or_eq_true, Bool.and_eq_true, Nat.blt_eq, beq_iff_eq]

theorem CaseRun.imageOf?_eq_some {r : CaseRun} {n m : Nat} (h : r.imageOf? n = some m) :
    r.first ≤ n ∧ n ≤ r.last ∧ (n - r.first) % r.step = 0 ∧ m = r.image + (n - r.first) := by
  rw [imageOf?] at h
  split at h
  next inRun => exact ⟨inRun.1, inRun.2.1, inRun.2.2, (Option.some.inj h).symm⟩
  next => cases h

theorem CaseRun.imageOf?_eq_none_of_avoids {r other : CaseRun} {n m : Nat}
    (avoids : r.avoids other = true) (image : r.imageOf? n = some m) :
    other.imageOf? m = none := by
  obtain ⟨first, last, step, rfl⟩ := imageOf?_eq_some image
  rw [imageOf?, if_neg]
  rintro ⟨first', last', step'⟩
  rcases avoids_iff.1 avoids with (below | above) | ⟨⟨two | single, two'⟩, parity⟩
  · omega
  · omega
  · rw [two] at step
    rw [two'] at step'
    omega
  · rw [two'] at step'
    omega

/-- The capitals ascend, so that those at some code points stand next to each other. -/
theorem capitals_ascend : capitals.Pairwise fun r other => r.first < other.first := by
  have chain : (capitals.map CaseRun.first).IsChain (· < ·) := by decide +kernel
  exact List.pairwise_map.1 (List.isChain_iff_pairwise.1 chain)

/-- The runs of capitals that do not end before `lo`, up to the first one that starts behind
`hi`. -/
def capitalsBetween (lo hi : Nat) : List CaseRun :=
  (capitals.dropWhile fun r => Nat.blt r.last lo).takeWhile fun r => Nat.ble r.first hi

theorem mem_takeWhile_or {rs : List CaseRun} {r : CaseRun} (hi : Nat)
    (ascend : rs.Pairwise fun r other => r.first < other.first) (hr : r ∈ rs) :
    hi < r.first ∨ r ∈ rs.takeWhile fun r => Nat.ble r.first hi := by
  induction rs with
  | nil => cases hr
  | cons head rest ih =>
      obtain ⟨above, ascend⟩ := List.pairwise_cons.1 ascend
      by_cases inside : Nat.ble head.first hi = true
      · rw [List.takeWhile_cons, if_pos inside]
        rcases List.mem_cons.1 hr with rfl | hr
        · exact .inr List.mem_cons_self
        · exact (ih ascend hr).imp id (List.mem_cons_of_mem head)
      · rw [Nat.ble_eq] at inside
        rcases List.mem_cons.1 hr with rfl | hr
        · exact .inl (by omega)
        · have := above r hr
          exact .inl (by omega)

/-- Capitals lie on either side of some code points, or they are found there. -/
theorem mem_capitalsBetween_or {r : CaseRun} (lo hi : Nat) (hr : r ∈ capitals) :
    r.last < lo ∨ hi < r.first ∨ r ∈ capitalsBetween lo hi := by
  rw [← @List.takeWhile_append_dropWhile _ (fun r => Nat.blt r.last lo) capitals,
    List.mem_append] at hr
  rcases hr with before | hr
  · have below := List.mem_takeWhile_imp before
    rw [Nat.blt_eq] at below
    exact .inl below
  · exact .inr (mem_takeWhile_or hi (capitals_ascend.sublist (List.dropWhile_sublist _)) hr)

theorem capitalsBetween_avoid : (capitals.all fun r =>
    (capitalsBetween r.image (r.image + (r.last - r.first))).all fun other =>
      r.avoids other) = true := by
  decide +kernel

/-- No small form is a capital. -/
theorem capitals_avoid {r other : CaseRun} (hr : r ∈ capitals) (hother : other ∈ capitals) :
    r.avoids other = true := by
  rcases mem_capitalsBetween_or r.image (r.image + (r.last - r.first)) hother with
    below | above | between
  · exact CaseRun.avoids_iff.2 (.inl (.inr below))
  · exact CaseRun.avoids_iff.2 (.inl (.inl above))
  · exact List.all_eq_true.1 (List.all_eq_true.1 capitalsBetween_avoid r hr) other between

/-- Small forms are characters at `a` or above, and none of them is `İ`. -/
theorem capitals_range : ∀ r ∈ capitals, 0x61 ≤ r.image ∧
    (r.image + (r.last - r.first) < 0x130 ∨ 0x130 < r.image) ∧
    (r.image + (r.last - r.first) < 0xD800 ∨
      0xDFFF < r.image ∧ r.image + (r.last - r.first) < 0x110000) := by
  decide +kernel

/-! ## Code points -/

/-- A code point is its own small form, or a run of capitals gives it one. -/
theorem lowerCode_cases (n : Nat) :
    lowerCode n = n ∨ ∃ r ∈ capitals, r.imageOf? n = some (lowerCode n) := by
  rw [lowerCode]
  cases found : capitals.findSome? (·.imageOf? n) with
  | none => exact .inl rfl
  | some m =>
      obtain ⟨r, hr, image⟩ := List.exists_of_findSome?_eq_some found
      exact .inr ⟨r, hr, image⟩

theorem lowerCode_lowerCode (n : Nat) : lowerCode (lowerCode n) = lowerCode n := by
  rcases lowerCode_cases n with same | ⟨r, hr, image⟩
  · rw [same, same]
  · have none : capitals.findSome? (·.imageOf? (lowerCode n)) = none := by
      rw [List.findSome?_eq_none_iff]
      intro other hother
      exact CaseRun.imageOf?_eq_none_of_avoids (capitals_avoid hr hother) image
    rw [lowerCode, none, Option.getD_none]

/-- A small form that is not the code point itself is a character at `a` or above, and not `İ`. -/
theorem lowerCode_range {n : Nat} (other : lowerCode n ≠ n) :
    0x61 ≤ lowerCode n ∧ lowerCode n ≠ 0x130 ∧ (lowerCode n).isValidChar := by
  rcases lowerCode_cases n with same | ⟨r, hr, image⟩
  · exact absurd same other
  · obtain ⟨first, last, -, eq⟩ := CaseRun.imageOf?_eq_some image
    obtain ⟨low, dotted, valid⟩ := capitals_range r hr
    rw [Nat.isValidChar]
    omega

/-! ## Characters -/

theorem toNat_lowerChar (c : Char) : (lowerChar c).toNat = lowerCode c.toNat := by
  have valid : (lowerCode c.toNat).isValidChar := by
    by_cases same : lowerCode c.toNat = c.toNat
    · rw [same]
      exact c.valid
    · exact (lowerCode_range same).2.2
  rw [lowerChar, Char.ofNat, dif_pos valid]
  rfl

theorem toNat_injective {c d : Char} (h : c.toNat = d.toNat) : c = d := by
  rw [← Char.ofNat_toNat c, h, Char.ofNat_toNat]

theorem lowerChar_lowerChar (c : Char) : lowerChar (lowerChar c) = lowerChar c := by
  apply toNat_injective
  rw [toNat_lowerChar, toNat_lowerChar, lowerCode_lowerCode]

theorem lowerChar_sigma : lowerChar 'Σ' = 'σ' := by decide

/-- The small forms that the exceptions of the mapping give, and the signs of string literals. -/
theorem lowerChar_eq_self :
    ∀ c ∈ ['ς', 'σ', 'i', '\u0307', '"', '\\'], lowerChar c = c := by
  have all : (['ς', 'σ', 'i', '\u0307', '"', '\\'].all fun c => lowerChar c == c) = true := by
    decide
  exact fun c hc => beq_iff_eq.1 (List.all_eq_true.1 all c hc)

/-- A character that small letters leave alone, wherever it stands. -/
structure IsSmall (c : Char) : Prop where
  /-- The character is its own small form. -/
  lower : lowerChar c = c
  /-- It is not the sigma that depends on its neighbours. -/
  not_sigma : c ≠ 'Σ'
  /-- It is not the capital with two small characters. -/
  not_dotted : c ≠ 'İ'

theorem isSmall_lowerChar {c : Char} (notDotted : c ≠ 'İ') : IsSmall (lowerChar c) where
  lower := lowerChar_lowerChar c
  not_sigma := by
    intro sigma
    have same := lowerChar_lowerChar c
    rw [sigma, lowerChar_sigma] at same
    exact absurd same (by decide)
  not_dotted := by
    intro dotted
    by_cases same : lowerCode c.toNat = c.toNat
    · rw [← toNat_lowerChar] at same
      exact notDotted ((toNat_injective same).symm.trans dotted)
    · have other := (lowerCode_range same).2.1
      rw [← toNat_lowerChar, dotted] at other
      exact other rfl

theorem isSmall_of_mem_lowerAt {before after : List Char} {c d : Char}
    (h : d ∈ lowerAt before c after) : IsSmall d := by
  rw [lowerAt] at h
  split at h
  next =>
    rw [List.mem_singleton] at h
    subst h
    split
    · exact ⟨lowerChar_eq_self _ (by decide), by decide, by decide⟩
    · exact ⟨lowerChar_eq_self _ (by decide), by decide, by decide⟩
  next =>
    split at h
    next =>
      rcases List.mem_cons.1 h with rfl | h
      · exact ⟨lowerChar_eq_self _ (by decide), by decide, by decide⟩
      · rw [List.mem_singleton.1 h]
        exact ⟨lowerChar_eq_self _ (by decide), by decide, by decide⟩
    next notDotted =>
      rw [List.mem_singleton.1 h]
      exact isSmall_lowerChar notDotted

theorem lowerAt_of_isSmall {c : Char} (small : IsSmall c) (before after : List Char) :
    lowerAt before c after = [c] := by
  rw [lowerAt, if_neg small.not_sigma, if_neg small.not_dotted, small.lower]

/-- A small form below `a` is the character itself. -/
theorem eq_of_mem_lowerAt {before after : List Char} {c d : Char}
    (h : d ∈ lowerAt before c after) (low : d.toNat < 0x61) : d = c := by
  rw [lowerAt] at h
  split at h
  next =>
    rw [List.mem_singleton] at h
    subst h
    split at low
    · exact absurd low (by decide)
    · exact absurd low (by decide)
  next =>
    split at h
    next =>
      rcases List.mem_cons.1 h with rfl | h
      · exact absurd low (by decide)
      · rw [List.mem_singleton.1 h] at low
        exact absurd low (by decide)
    next =>
      rw [List.mem_singleton.1 h] at low ⊢
      by_cases same : lowerCode c.toNat = c.toNat
      · rw [← toNat_lowerChar] at same
        exact toNat_injective same
      · have high := (lowerCode_range same).1
        rw [toNat_lowerChar] at low
        omega

/-! ## Texts in small letters -/

theorem isSmall_of_mem_lowerAfter {d : Char} (cs : List Char) :
    ∀ before, d ∈ lowerAfter before cs → IsSmall d := by
  induction cs with
  | nil => exact fun before h => absurd h List.not_mem_nil
  | cons c rest ih =>
      intro before h
      rw [lowerAfter] at h
      rcases List.mem_append.1 h with h | h
      · exact isSmall_of_mem_lowerAt h
      · exact ih (c :: before) h

theorem isSmall_of_mem_lowercase {cs : List Char} {d : Char} (h : d ∈ lowercase cs) :
    IsSmall d :=
  isSmall_of_mem_lowerAfter cs [] h

theorem lowerAfter_of_isSmall {cs : List Char} (small : ∀ c ∈ cs, IsSmall c) :
    ∀ before, lowerAfter before cs = cs := by
  induction cs with
  | nil => exact fun _ => rfl
  | cons c rest ih =>
      intro before
      rw [lowerAfter, lowerAt_of_isSmall (small c List.mem_cons_self),
        ih fun d hd => small d (List.mem_cons_of_mem c hd)]
      rfl

theorem lowercase_lowercase (cs : List Char) : lowercase (lowercase cs) = lowercase cs :=
  lowerAfter_of_isSmall (fun _ => isSmall_of_mem_lowercase) []

theorem mem_of_mem_lowerAfter {d : Char} (low : d.toNat < 0x61) (cs : List Char) :
    ∀ before, d ∈ lowerAfter before cs → d ∈ cs := by
  induction cs with
  | nil => exact fun before h => absurd h List.not_mem_nil
  | cons c rest ih =>
      intro before h
      rw [lowerAfter] at h
      rcases List.mem_append.1 h with h | h
      · rw [eq_of_mem_lowerAt h low]
        exact List.mem_cons_self
      · exact List.mem_cons_of_mem c (ih (c :: before) h)

/-- What lies below `a` in the small letters of a text stands in the text. -/
theorem mem_of_mem_lowercase {cs : List Char} {d : Char} (low : d.toNat < 0x61)
    (h : d ∈ lowercase cs) : d ∈ cs :=
  mem_of_mem_lowerAfter low cs [] h

theorem mem_lowerAfter_of_isSmall {d : Char} (small : IsSmall d) (cs : List Char) :
    ∀ before, d ∈ cs → d ∈ lowerAfter before cs := by
  induction cs with
  | nil => exact fun before h => h
  | cons c rest ih =>
      intro before h
      rw [lowerAfter, List.mem_append]
      rcases List.mem_cons.1 h with rfl | h
      · rw [lowerAt_of_isSmall small]
        exact .inl List.mem_cons_self
      · exact .inr (ih (c :: before) h)

/-- A character that is its own small form stays in a text. -/
theorem mem_lowercase_of_isSmall {cs : List Char} {d : Char} (small : IsSmall d) (h : d ∈ cs) :
    d ∈ lowercase cs :=
  mem_lowerAfter_of_isSmall small cs [] h

/-! ## Trimmed texts -/

/-- A text neither starts nor ends with white space. -/
structure Trimmed (cs : List Char) : Prop where
  /-- The first character is not white space. -/
  start : cs.dropWhile isWhiteSpace = cs
  /-- The last character is not white space. -/
  finish : trimEnd cs = cs

theorem trimEnd_eq_rdropWhile (cs : List Char) : trimEnd cs = cs.rdropWhile isWhiteSpace := rfl

theorem trimmed_trim (cs : List Char) : Trimmed (trim cs) where
  start := by
    rw [trim, trimEnd_eq_rdropWhile, List.dropWhile_eq_self_iff]
    intro nonempty
    -- The text loses characters at its end, so what is left starts as it did before.
    have kept := List.rdropWhile_prefix isWhiteSpace (cs.dropWhile isWhiteSpace)
    have start := List.dropWhile_eq_self_iff.1 (List.dropWhile_idempotent isWhiteSpace cs)
    rw [kept.getElem nonempty]
    exact start (nonempty.trans_le kept.length_le)
  finish := by
    rw [trim, trimEnd_eq_rdropWhile, trimEnd_eq_rdropWhile, List.rdropWhile_idempotent]

theorem trim_of_trimmed {cs : List Char} (trimmed : Trimmed cs) : trim cs = cs := by
  rw [trim, trimmed.start, trimmed.finish]

theorem trim_trim (cs : List Char) : trim (trim cs) = trim cs := trim_of_trimmed (trimmed_trim cs)

theorem mem_of_mem_trim {cs : List Char} {c : Char} (h : c ∈ trim cs) : c ∈ cs :=
  (List.dropWhile_sublist _).mem ((List.rdropWhile_prefix _ _).mem h)

end EntityBinding.Text
