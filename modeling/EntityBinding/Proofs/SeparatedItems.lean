import EntityBinding.Declaration.TypeExpr
import Mathlib.Logic.Basic

/-!
# Reading items between separators

A text with more text behind it is read in one way if it ends where a character of another kind
follows (`run_unique`).  An item *reads alone* if its text and what stands behind it can be told
apart before some signs (`ReadsAlone`).  Items that read alone do so between separators and up to a
closing sign (`Separates.joined_unique`).
-/

namespace EntityBinding

open Text (joinWith)

/-! ## Runs and signs -/

/-- A text is at its end or goes on with one of some signs. -/
def StartsIn (signs text : List Char) : Prop := ∀ c ∈ text.head?, c ∈ signs

theorem startsIn_cons {signs : List Char} {c : Char} (rest : List Char) (h : c ∈ signs) :
    StartsIn signs (c :: rest) := by
  simpa [StartsIn] using h

theorem StartsIn.mono {signs more text : List Char} (h : StartsIn signs text)
    (sub : signs ⊆ more) : StartsIn more text :=
  fun c hc => sub (h c hc)

/-- A run of characters of one class ends where a character of another class follows. -/
theorem run_unique {p : Char → Bool} {v w r s : List Char} (hv : ∀ c ∈ v, p c = true)
    (hw : ∀ c ∈ w, p c = true) (hr : ∀ c ∈ r.head?, p c = false)
    (hs : ∀ c ∈ s.head?, p c = false) (same : v ++ r = w ++ s) : v = w ∧ r = s := by
  induction v generalizing w with
  | nil =>
      cases w with
      | nil => exact ⟨rfl, same⟩
      | cons c w =>
          have other := hr c (by simp [show r = c :: (w ++ s) from same])
          rw [hw c List.mem_cons_self] at other
          cases other
  | cons c v ih =>
      cases w with
      | nil =>
          have other := hs c (by simp [show s = c :: (v ++ r) from same.symm])
          rw [hv c List.mem_cons_self] at other
          cases other
      | cons d w =>
          obtain ⟨rfl, behind⟩ := List.cons.inj same
          obtain ⟨rfl, rest⟩ := ih (fun e he => hv e (List.mem_cons_of_mem c he))
            (fun e he => hw e (List.mem_cons_of_mem c he)) behind
          exact ⟨rfl, rest⟩

/-! ## Items -/

section Items

variable {α β : Type} {text : α → String} {plain : α → Bool} {core : α → β} {follow : List Char}

/-- The text of an item is read in one way before the signs `follow`.  If another item has the same
text, with more text behind both, then both have the same `core` and the same text behind them,
as long as they are plain. -/
def ReadsAlone (text : α → String) (plain : α → Bool) (core : α → β) (follow : List Char) (a : α) :
    Prop :=
  plain a = true → ∀ {b : α} {r s : List Char}, plain b = true → StartsIn follow r →
    StartsIn follow s → (text a).toList ++ r = (text b).toList ++ s → core a = core b ∧ r = s

/-- What stands behind the first of some joined texts. -/
def tailText (sep : String) (texts : List String) : List Char :=
  texts.flatMap fun t => sep.toList ++ t.toList

theorem tailText_cons (sep t : String) (ts : List String) :
    tailText sep (t :: ts) = sep.toList ++ t.toList ++ tailText sep ts := rfl

theorem toList_joinWith_cons (sep : String) : ∀ (t : String) (ts : List String),
    (joinWith sep (t :: ts)).toList = t.toList ++ tailText sep ts
  | t, [] => by simp [joinWith, tailText]
  | t, u :: us => by
      have split : joinWith sep (t :: u :: us) = t ++ sep ++ joinWith sep (u :: us) := by
        rw [joinWith]
        simp
      rw [split, String.toList_append, String.toList_append, toList_joinWith_cons sep u us,
        tailText_cons, List.append_assoc, List.append_assoc]

/-- A separator of a sign and a space, and another sign behind the last item.  Both signs can stand
behind an item. -/
structure Separates (sep : String) (sign close : Char) (follow : List Char) : Prop where
  /-- The separator is the sign with a space. -/
  spaced : sep.toList = [sign, ' ']
  /-- The sign can stand behind an item. -/
  between : sign ∈ follow
  /-- The closing sign can, too. -/
  behind : close ∈ follow
  /-- They are told apart. -/
  different : sign ≠ close

variable {sep : String} {sign close : Char}

theorem Separates.startsIn_tailText (marks : Separates sep sign close follow)
    (texts : List String) (r : List Char) :
    StartsIn follow (tailText sep texts ++ close :: r) := by
  cases texts with
  | nil => exact startsIn_cons r marks.behind
  | cons t ts =>
      rw [tailText_cons, marks.spaced]
      exact startsIn_cons _ marks.between

/-- A further item is told from the closing sign. -/
theorem Separates.tailText_cons_ne (marks : Separates sep sign close follow) (t : String)
    (ts : List String) (r s : List Char) : tailText sep (t :: ts) ++ r ≠ close :: s := by
  rw [tailText_cons, marks.spaced]
  exact fun same => marks.different (List.cons.inj same).1

/-- Items behind separators are read in one way up to the closing sign. -/
theorem Separates.tailText_unique (marks : Separates sep sign close follow) {r s : List Char}
    {as bs : List α} (alone : ∀ a ∈ as, ReadsAlone text plain core follow a)
    (plainsA : ∀ a ∈ as, plain a = true) (plainsB : ∀ b ∈ bs, plain b = true)
    (same : tailText sep (as.map text) ++ close :: r = tailText sep (bs.map text) ++ close :: s) :
    as.map core = bs.map core ∧ r = s := by
  induction as generalizing bs with
  | nil =>
      cases bs with
      | nil => exact ⟨rfl, (List.cons.inj same).2⟩
      | cons b bs => exact absurd same.symm (marks.tailText_cons_ne _ _ _ _)
  | cons a as ih =>
      cases bs with
      | nil => exact absurd same (marks.tailText_cons_ne _ _ _ _)
      | cons b bs =>
          obtain ⟨alone, others⟩ := List.forall_mem_cons.1 alone
          obtain ⟨plainA, plainsA⟩ := List.forall_mem_cons.1 plainsA
          obtain ⟨plainB, plainsB⟩ := List.forall_mem_cons.1 plainsB
          simp only [List.map_cons, tailText_cons, List.append_assoc, List.append_cancel_left_eq]
            at same
          obtain ⟨first, rest⟩ := alone plainA plainB (marks.startsIn_tailText _ r)
            (marks.startsIn_tailText _ s) same
          obtain ⟨others, closed⟩ := ih others plainsA plainsB rest
          exact ⟨by rw [List.map_cons, List.map_cons, first, others], closed⟩

/-- Items between separators are read in one way up to the closing sign, which starts none of
them. -/
theorem Separates.joined_unique (marks : Separates sep sign close follow)
    (opens : ∀ {a : α} {r s : List Char}, plain a = true → (text a).toList ++ r ≠ close :: s)
    {r s : List Char} {as bs : List α} (alone : ∀ a ∈ as, ReadsAlone text plain core follow a)
    (plainsA : ∀ a ∈ as, plain a = true) (plainsB : ∀ b ∈ bs, plain b = true)
    (same : (joinWith sep (as.map text)).toList ++ close :: r =
      (joinWith sep (bs.map text)).toList ++ close :: s) :
    as.map core = bs.map core ∧ r = s := by
  cases as with
  | nil =>
      cases bs with
      | nil => exact ⟨rfl, (List.cons.inj same).2⟩
      | cons b bs =>
          rw [List.map_cons, toList_joinWith_cons, List.append_assoc] at same
          exact absurd same.symm (opens (plainsB b List.mem_cons_self))
  | cons a as =>
      cases bs with
      | nil =>
          rw [List.map_cons, toList_joinWith_cons, List.append_assoc] at same
          exact absurd same (opens (plainsA a List.mem_cons_self))
      | cons b bs =>
          -- Behind a separator the first item is one of the others.
          refine marks.tailText_unique alone plainsA plainsB ?_
          simp only [List.map_cons, toList_joinWith_cons, List.append_assoc] at same
          simp only [List.map_cons, tailText_cons, List.append_assoc, same]

end Items

end EntityBinding
