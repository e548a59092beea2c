import EntityBinding.Proofs.TextForms
import Mathlib.Data.List.Forall2

/-!
# Texts that differ in case

Two texts agree letter by letter if they have the same number of characters and each character
has the same small form as its counterpart (`AgreeByLetter`).  One might expect that such texts
are equal in small letters, but the small form of a `Σ` depends on where it stands: at the end
of a word it is `ς` (`FinalSigma`), and the `σ` that it agrees with always stays as it is.

This is the only difference.  A capital and its small form are both cased letters, and neither is
*Case_Ignorable* (`contains_lowerChar`), so texts that agree letter by letter have the same words
(`startsCased_congr`).  Hence they are equal in small letters if and only if no final sigma of one
of them stands against a `σ` of the other (`lowercase_eq_iff`).
-/

namespace EntityBinding.Text

/-! ## Letters -/

/-- The small form of a character that stands alone. -/
def smallForm (c : Char) : List Char := if c = 'İ' then ['i', '\u0307'] else [lowerChar c]

/-- Two texts have the same number of characters, and those at the same place have the same
small form. -/
def AgreeByLetter : List Char → List Char → Prop :=
  List.Forall₂ fun c d => smallForm c = smallForm d

theorem AgreeByLetter.symm {s t : List Char} (agree : AgreeByLetter s t) : AgreeByLetter t s :=
  agree.flip.imp fun _ _ same => same.symm

/-- Characters with the same small form. -/
theorem smallForm_eq_iff {c d : Char} :
    smallForm c = smallForm d ↔
      (c = 'İ' ∧ d = 'İ') ∨ (c ≠ 'İ' ∧ d ≠ 'İ' ∧ lowerChar c = lowerChar d) := by
  rw [smallForm, smallForm]
  by_cases hc : c = 'İ'
  · by_cases hd : d = 'İ'
    · simp [hc, hd]
    · simp [hc, hd]
  · by_cases hd : d = 'İ'
    · simp [hc, hd]
    · simp [hc, hd]

/-! ## Classes of characters -/

/-- One of the ranges includes all code points from `lo` to `hi`. -/
def CodeRanges.covers (ranges : CodeRanges) (lo hi : Nat) : Bool :=
  ranges.any fun r => Nat.ble r.1 lo && Nat.ble hi r.2

/-- No range includes a code point from `lo` to `hi`. -/
def CodeRanges.avoids (ranges : CodeRanges) (lo hi : Nat) : Bool :=
  ranges.all fun r => Nat.blt hi r.1 || Nat.blt r.2 lo

theorem CodeRanges.contains_of_covers {ranges : CodeRanges} {lo hi : Nat}
    (covers : ranges.covers lo hi = true) {c : Char} (low : lo ≤ c.toNat) (high : c.toNat ≤ hi) :
    ranges.contains c = true := by
  obtain ⟨r, hr, inside⟩ := List.any_eq_true.1 covers
  rw [Bool.and_eq_true, Nat.ble_eq, Nat.ble_eq] at inside
  refine List.any_eq_true.2 ⟨r, hr, ?_⟩
  rw [Bool.and_eq_true, decide_eq_true_eq, decide_eq_true_eq]
  omega

theorem CodeRanges.contains_of_avoids {ranges : CodeRanges} {lo hi : Nat}
    (avoids : ranges.avoids lo hi = true) {c : Char} (low : lo ≤ c.toNat) (high : c.toNat ≤ hi) :
    ranges.contains c = false := by
  refine List.any_eq_false.2 fun r hr => ?_
  have outside := List.all_eq_true.1 avoids r hr
  rw [Bool.or_eq_true, Nat.blt_eq, Nat.blt_eq] at outside
  rw [Bool.and_eq_true, decide_eq_true_eq, decide_eq_true_eq]
  omega

/-- Stretches of code points with all letters that have two forms and with no character that is
*Case_Ignorable*. -/
def letterStretches : CodeRanges := [
  (0x41, 0x5A), (0x61, 0x7A), (0xC0, 0x29E), (0x370, 0x373), (0x376, 0x377), (0x37B, 0x37F),
  (0x386, 0x386), (0x388, 0x481), (0x48A, 0x556), (0x561, 0x586), (0x10A0, 0x10FA),
  (0x10FD, 0x10FF), (0x13A0, 0x13FD), (0x1C89, 0x1CBF), (0x1D79, 0x1D8E), (0x1E00, 0x1FBC),
  (0x1FC3, 0x1FCC), (0x1FD0, 0x1FDB), (0x1FE0, 0x1FEC), (0x1FF3, 0x1FFC), (0x2126, 0x2C76),
  (0x2C7E, 0x2CEE), (0x2CF2, 0x2D2D), (0xA640, 0xA66D), (0xA680, 0xA69B), (0xA722, 0xA76F),
  (0xA779, 0xA787), (0xA78B, 0xA7DC), (0xA7F5, 0xA7F6), (0xAB53, 0xAB53), (0xAB70, 0xABBF),
  (0xFF21, 0xFF3A), (0xFF41, 0xFF5A), (0x10400, 0x105BC), (0x10C80, 0x10CF2), (0x10D50, 0x10D65),
  (0x10D70, 0x10D85), (0x118A0, 0x118DF), (0x16E40, 0x16ED3), (0x1E900, 0x1E943)]

theorem letterStretches_not_ignorable :
    ∀ s ∈ letterStretches, caseIgnorableRanges.avoids s.1 s.2 = true := by
  decide +kernel

/-- The capitals of a run and their small forms lie in the stretches. -/
theorem capitals_in_stretches : ∀ r ∈ capitals,
    letterStretches.covers r.first r.last = true ∧
    letterStretches.covers r.image (r.image + (r.last - r.first)) = true := by
  decide +kernel

/-- Small forms are cased. -/
theorem images_cased : ∀ r ∈ capitals,
    casedRanges.covers r.image (r.image + (r.last - r.first)) = true := by
  decide +kernel

/-- Capitals are cased.  What lies between those of a run need not be a letter. -/
theorem capitals_cased : ∀ r ∈ capitals,
    casedRanges.covers r.first r.last = true ∨
    ∀ k ∈ List.range (r.last - r.first + 1), k % r.step = 0 →
      casedRanges.covers (r.first + k) (r.first + k) = true := by
  decide +kernel

/-- What lies in a stretch is not *Case_Ignorable*. -/
theorem not_ignorable_of_covers {lo hi : Nat} (covers : letterStretches.covers lo hi = true)
    {c : Char} (low : lo ≤ c.toNat) (high : c.toNat ≤ hi) :
    caseIgnorableRanges.contains c = false := by
  obtain ⟨s, hs, inside⟩ := List.any_eq_true.1 covers
  rw [Bool.and_eq_true, Nat.ble_eq, Nat.ble_eq] at inside
  exact CodeRanges.contains_of_avoids (letterStretches_not_ignorable s hs)
    (inside.1.trans low) (high.trans inside.2)

/-- A character is its own small form, or it is a capital of a run. -/
theorem lowerChar_cases (c : Char) :
    lowerChar c = c ∨ ∃ r ∈ capitals, r.imageOf? c.toNat = some (lowerChar c).toNat := by
  rcases lowerCode_cases c.toNat with same | run
  · rw [← toNat_lowerChar] at same
    exact .inl (toNat_injective same)
  · rw [← toNat_lowerChar] at run
    exact .inr run

/-- A capital and its small form are both cased and both not *Case_Ignorable*. -/
theorem contains_lowerChar (c : Char) :
    casedRanges.contains (lowerChar c) = casedRanges.contains c ∧
      caseIgnorableRanges.contains (lowerChar c) = caseIgnorableRanges.contains c := by
  rcases lowerChar_cases c with same | ⟨r, hr, image⟩
  · rw [same]
    exact ⟨rfl, rfl⟩
  · obtain ⟨first, last, step, eq⟩ := CaseRun.imageOf?_eq_some image
    obtain ⟨capital, small⟩ := capitals_in_stretches r hr
    have cased : casedRanges.contains c = true := by
      rcases capitals_cased r hr with whole | each
      · exact CodeRanges.contains_of_covers whole first last
      · have inRange : c.toNat - r.first ∈ List.range (r.last - r.first + 1) := by
          rw [List.mem_range]
          omega
        exact CodeRanges.contains_of_covers (each _ inRange step) (by omega) (by omega)
    rw [cased, CodeRanges.contains_of_covers (images_cased r hr) (by omega) (by omega),
      not_ignorable_of_covers capital first last,
      not_ignorable_of_covers small (by omega) (by omega)]
    exact ⟨rfl, rfl⟩

/-- Characters with the same small form belong to the same classes. -/
theorem contains_of_smallForm_eq {c d : Char} (same : smallForm c = smallForm d) :
    casedRanges.contains c = casedRanges.contains d ∧
      caseIgnorableRanges.contains c = caseIgnorableRanges.contains d := by
  rcases smallForm_eq_iff.1 same with ⟨rfl, rfl⟩ | ⟨-, -, lower⟩
  · exact ⟨rfl, rfl⟩
  · obtain ⟨cased, ignorable⟩ := contains_lowerChar c
    rw [← cased, ← ignorable, lower]
    exact contains_lowerChar d

/-! ## Words -/

theorem startsCased_cons (c : Char) (cs : List Char) :
    startsCased (c :: cs) =
      if caseIgnorableRanges.contains c then startsCased cs else casedRanges.contains c := by
  rw [startsCased, List.dropWhile_cons]
  cases caseIgnorableRanges.contains c with
  | true => rfl
  | false => rfl

/-- Texts that agree letter by letter both start with a word, or neither does. -/
theorem startsCased_congr {s t : List Char} (agree : AgreeByLetter s t) :
    startsCased s = startsCased t := by
  induction agree with
  | nil => rfl
  | @cons c d s t same _ ih =>
      obtain ⟨cased, ignorable⟩ := contains_of_smallForm_eq same
      rw [startsCased_cons, startsCased_cons, ignorable, cased, ih]

/-- The character at `i` is a `Σ` at the end of a word, in a text that follows `before`, whose
last character comes first. -/
def FinalSigmaAfter (before cs : List Char) (i : Nat) : Prop :=
  cs[i]? = some 'Σ' ∧ startsCased ((cs.take i).reverse ++ before) = true ∧
    startsCased (cs.drop (i + 1)) = false

/-- The character at `i` is a `Σ` at the end of a word: a cased letter stands before it and none
behind it, apart from characters that are *Case_Ignorable*. -/
def FinalSigma (cs : List Char) (i : Nat) : Prop := FinalSigmaAfter [] cs i

theorem finalSigmaAfter_zero {before rest : List Char} {c : Char} :
    FinalSigmaAfter before (c :: rest) 0 ↔
      c = 'Σ' ∧ startsCased before = true ∧ startsCased rest = false := by
  simp [FinalSigmaAfter]

theorem finalSigmaAfter_succ {before rest : List Char} {c : Char} {i : Nat} :
    FinalSigmaAfter before (c :: rest) (i + 1) ↔ FinalSigmaAfter (c :: before) rest i := by
  simp [FinalSigmaAfter]

theorem FinalSigma.not_small {cs : List Char} {i : Nat} (final : FinalSigma cs i) :
    cs[i]? ≠ some 'σ' := by
  rw [final.1]
  decide

/-- Some `Σ` at the end of a word of one text stands against a `σ` of the other. -/
def SigmaAgainst (s t : List Char) : Prop := ∃ i, FinalSigma s i ∧ t[i]? = some 'σ'

/-- Nothing but `Σ` has the small form `σ`. -/
theorem capitals_of_sigma : ∀ r ∈ capitals, r.image ≤ 0x3C3 →
    0x3C3 ≤ r.image + (r.last - r.first) → r.first = 0x3A3 ∧ r.image = 0x3C3 := by
  decide +kernel

theorem smallForm_eq_sigma {c : Char} (same : smallForm c = smallForm 'Σ') :
    c = 'Σ' ∨ c = 'σ' := by
  rcases smallForm_eq_iff.1 same with ⟨-, dotted⟩ | ⟨-, -, lower⟩
  · exact absurd dotted (by decide)
  · rw [lowerChar_sigma] at lower
    rcases lowerChar_cases c with self | ⟨r, hr, image⟩
    · exact .inr (self.symm.trans lower)
    · obtain ⟨first, last, -, eq⟩ := CaseRun.imageOf?_eq_some image
      rw [lower] at eq
      have code : 'σ'.toNat = 0x3C3 := rfl
      obtain ⟨first', image'⟩ := capitals_of_sigma r hr (by omega) (by omega)
      refine .inl (toNat_injective ?_)
      show c.toNat = 0x3A3
      omega

/-- A `Σ` at the end of a word stays one in a text that agrees letter by letter, or it has become
a `σ`. -/
theorem FinalSigma.of_agree {s t : List Char} (agree : AgreeByLetter s t) {i : Nat}
    (final : FinalSigma s i) : FinalSigma t i ∨ t[i]? = some 'σ' := by
  obtain ⟨sigma, before, after⟩ := final
  obtain ⟨hi, at_i⟩ := List.getElem?_eq_some_iff.1 sigma
  have hi' : i < t.length := agree.length_eq ▸ hi
  have same : smallForm s[i] = smallForm t[i] := agree.get hi hi'
  rw [at_i] at same
  rcases smallForm_eq_sigma same.symm with capital | small
  · have prefixes : AgreeByLetter (s.take i).reverse (t.take i).reverse :=
      List.rel_reverse (List.forall₂_take i agree)
    have suffixes : AgreeByLetter (s.drop (i + 1)) (t.drop (i + 1)) :=
      List.forall₂_drop (i + 1) agree
    rw [List.append_nil, startsCased_congr prefixes] at before
    rw [startsCased_congr suffixes] at after
    refine .inl ⟨List.getElem?_eq_some_iff.2 ⟨hi', capital⟩, ?_, after⟩
    rw [List.append_nil]
    exact before
  · exact .inr (List.getElem?_eq_some_iff.2 ⟨hi', small⟩)

/-! ## Small letters -/

theorem smallForm_sigma : smallForm 'Σ' = ['σ'] := by
  rw [smallForm, if_neg (by decide), lowerChar_sigma]

/-- The small form of a character in a text is that of the character by itself, but for a `Σ` at
the end of a word. -/
theorem lowerAt_eq (before : List Char) (c : Char) (after : List Char) :
    lowerAt before c after =
      if c = 'Σ' ∧ startsCased before = true ∧ startsCased after = false then ['ς']
      else smallForm c := by
  rw [lowerAt]
  by_cases isSigma : c = 'Σ'
  · rw [isSigma, smallForm_sigma]
    cases startsCased before <;> cases startsCased after <;> rfl
  · have notFinal : ¬(c = 'Σ' ∧ startsCased before = true ∧ startsCased after = false) :=
      fun final => isSigma final.1
    rw [if_neg isSigma, if_neg notFinal, smallForm]

theorem length_lowerAt (before : List Char) (c : Char) (after : List Char) :
    (lowerAt before c after).length = (smallForm c).length := by
  rw [lowerAt_eq]
  split
  next final =>
    rw [final.1]
    rfl
  next => rfl

theorem lowerAt_eq_iff {before before' after after' : List Char} {c d : Char}
    (same : smallForm c = smallForm d) :
    lowerAt before c after = lowerAt before' d after' ↔
      ((c = 'Σ' ∧ startsCased before = true ∧ startsCased after = false) ↔
        (d = 'Σ' ∧ startsCased before' = true ∧ startsCased after' = false)) := by
  have sigma : smallForm 'Σ' ≠ ['ς'] := by
    rw [smallForm_sigma]
    decide
  rw [lowerAt_eq, lowerAt_eq]
  split
  next final =>
    split
    next final' => simp [final, final']
    next notFinal' =>
      rw [← same, final.1]
      exact iff_of_false sigma.symm fun both => notFinal' (both.1 ⟨rfl, final.2⟩)
  next notFinal =>
    split
    next final' =>
      rw [same, final'.1]
      exact iff_of_false sigma fun both => notFinal (both.2 ⟨rfl, final'.2⟩)
    next notFinal' => exact iff_of_true same (iff_of_false notFinal notFinal')

/-- Texts that agree letter by letter are equal in small letters if and only if the same
characters of them are a `Σ` at the end of a word. -/
theorem lowerAfter_eq_iff {s t : List Char} (agree : AgreeByLetter s t) :
    ∀ before before', lowerAfter before s = lowerAfter before' t ↔
      ∀ i, FinalSigmaAfter before s i ↔ FinalSigmaAfter before' t i := by
  induction agree with
  | nil => exact fun _ _ => by simp [lowerAfter, FinalSigmaAfter]
  | @cons c d s t same _ ih =>
      intro before before'
      have lengths : (lowerAt before c s).length = (lowerAt before' d t).length := by
        rw [length_lowerAt, length_lowerAt, same]
      have split : lowerAfter before (c :: s) = lowerAfter before' (d :: t) ↔
          lowerAt before c s = lowerAt before' d t ∧
            lowerAfter (c :: before) s = lowerAfter (d :: before') t := by
        rw [lowerAfter, lowerAfter]
        refine ⟨fun equal => List.append_inj equal lengths, ?_⟩
        rintro ⟨head, tail⟩
        rw [head, tail]
      have places := Nat.and_forall_add_one
        (p := fun i => FinalSigmaAfter before (c :: s) i ↔ FinalSigmaAfter before' (d :: t) i)
      rw [split, lowerAt_eq_iff same, ih, ← places]
      simp only [finalSigmaAfter_zero, finalSigmaAfter_succ]

/-- Texts that agree letter by letter are equal in small letters if and only if no `Σ` at the end
of a word of one of them stands against a `σ` of the other. -/
theorem lowercase_eq_iff {s t : List Char} (agree : AgreeByLetter s t) :
    lowercase s = lowercase t ↔ ¬SigmaAgainst s t ∧ ¬SigmaAgainst t s := by
  rw [lowercase, lowercase, lowerAfter_eq_iff agree]
  constructor
  · intro same
    constructor
    · rintro ⟨i, final, small⟩
      exact FinalSigma.not_small ((same i).1 final) small
    · rintro ⟨i, final, small⟩
      exact FinalSigma.not_small ((same i).2 final) small
  · rintro ⟨st, ts⟩ i
    constructor
    · intro final
      exact (FinalSigma.of_agree agree final).resolve_right fun small => st ⟨i, final, small⟩
    · intro final
      exact (FinalSigma.of_agree agree.symm final).resolve_right fun small => ts ⟨i, final, small⟩

end EntityBinding.Text
