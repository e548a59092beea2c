import EntityBinding.Model.Annotations

/-!
# Entries up to their order

The entries of a tag ascend by their names, so a list of them is determined by its members:
entries that are permutations of each other are equal (`Annotations.eq_of_perm`).  Putting an
entry under a new name adds it somewhere (`Annotations.insert_perm`).

So entries are determined as well by what is found under each name (`Annotations.ext_get?`).
Putting an entry changes what is found under its name alone (`Annotations.get?_insert`), and
entries under two names can be put in either order (`Annotations.insert_comm`).
-/

namespace EntityBinding

/-- A new name is put in its place among the others. -/
theorem putEntry_perm {name : String} (value : String) {es : List (String × String)}
    (new : name ∉ es.map Prod.fst) : (putEntry name value es).Perm ((name, value) :: es) := by
  induction es with
  | nil => exact .refl _
  | cons e rest ih =>
      obtain ⟨n, v⟩ := e
      simp only [List.map_cons, List.mem_cons, not_or] at new
      rw [putEntry]
      split
      · exact .refl _
      · rw [if_neg new.1]
        exact ((ih new.2).cons _).trans (.swap _ _ _)

theorem lookup_cons_eq_ite {α : Type} (n m : String) (v : α) (es : List (String × α)) :
    ((m, v) :: es).lookup n = if n = m then some v else es.lookup n := by
  by_cases same : n = m
  · simp [same]
  · simp [List.lookup_cons, same, beq_eq_false_iff_ne.2 same]

/-- If no name stands twice, the value of every entry is found under its name. -/
theorem mem_iff_lookup {α : Type} {es : List (String × α)} (distinct : (es.map Prod.fst).Nodup)
    {name : String} {value : α} : (name, value) ∈ es ↔ es.lookup name = some value := by
  rw [List.lookup_eq_some_iff]
  constructor
  · intro entry
    obtain ⟨before, after, split⟩ := List.append_of_mem entry
    refine ⟨before, after, split, fun e he => ?_⟩
    rw [split, List.map_append, List.nodup_append] at distinct
    have other := distinct.2.2 e.1 (List.mem_map_of_mem he) name List.mem_cons_self
    simpa using fun same : name = e.1 => other same.symm
  · rintro ⟨before, after, split, -⟩
    simp [split]

/-- An entry that is put is found under its name, and any other name finds what it did. -/
theorem lookup_putEntry (name value n : String) : ∀ es : List (String × String),
    (putEntry name value es).lookup n = if n = name then some value else es.lookup n
  | [] => lookup_cons_eq_ite n name value []
  | (m, v) :: rest => by
      rw [putEntry]
      split
      · exact lookup_cons_eq_ite n name value _
      · split
        next same =>
          rw [same, lookup_cons_eq_ite, lookup_cons_eq_ite]
          split <;> rfl
        next other =>
          rw [lookup_cons_eq_ite, lookup_putEntry name value n rest, lookup_cons_eq_ite]
          by_cases found : n = m
          · rw [if_pos found, if_pos found, if_neg fun same => other (same.symm.trans found)]
          · rw [if_neg found, if_neg found]

namespace Annotations

theorem contains_iff {a : Annotations} {name : String} :
    a.contains name = true ↔ name ∈ a.entries.map Prod.fst := by
  rw [contains, get?, List.lookup_isSome_iff, List.mem_map]
  constructor
  · rintro ⟨e, he, same⟩
    exact ⟨e, he, (beq_iff_eq.1 same).symm⟩
  · rintro ⟨e, he, rfl⟩
    exact ⟨e, he, beq_self_eq_true _⟩

/-- A new name adds an entry. -/
theorem insert_perm {a : Annotations} {name : String} (value : String)
    (new : name ∉ a.entries.map Prod.fst) :
    (a.insert name value).entries.Perm ((name, value) :: a.entries) :=
  putEntry_perm value new

/-- The entries of a tag are determined by which they are. -/
theorem eq_of_perm {a b : Annotations} (perm : a.entries.Perm b.entries) : a = b := by
  refine Annotations.ext (perm.eq_of_pairwise ?_ a.ascending b.ascending)
  intro e f _ _ below above
  exact absurd (String.lt_trans below above) (String.lt_irrefl _)

/-- No name stands twice. -/
theorem names_nodup (a : Annotations) : (a.entries.map Prod.fst).Nodup := by
  refine List.pairwise_map.2 (a.ascending.imp fun below same => ?_)
  rw [same] at below
  exact String.lt_irrefl _ below

/-! ## What is found under a name -/

theorem mem_entries_iff {a : Annotations} {name value : String} :
    (name, value) ∈ a.entries ↔ a.get? name = some value :=
  mem_iff_lookup a.names_nodup

/-- Entries are determined by what is found under each name. -/
theorem ext_get? {a b : Annotations} (same : ∀ name, a.get? name = b.get? name) : a = b := by
  have nodup : ∀ c : Annotations, c.entries.Nodup := fun c =>
    (List.pairwise_map.1 c.names_nodup).imp fun other same => other (congrArg Prod.fst same)
  refine eq_of_perm ((List.perm_ext_iff_of_nodup (nodup a) (nodup b)).2 fun e => ?_)
  obtain ⟨name, value⟩ := e
  rw [mem_entries_iff, mem_entries_iff, same]

theorem get?_insert (a : Annotations) (name value n : String) :
    (a.insert name value).get? n = if n = name then some value else a.get? n :=
  lookup_putEntry name value n a.entries

/-- Any other name finds what it did before an entry was put. -/
theorem get?_insert_of_ne (a : Annotations) {name n : String} (value : String) (other : n ≠ name) :
    (a.insert name value).get? n = a.get? n := by
  rw [get?_insert, if_neg other]

theorem contains_insert_of_ne (a : Annotations) {name n : String} (value : String)
    (other : n ≠ name) : (a.insert name value).contains n = a.contains n := by
  rw [contains, get?_insert_of_ne a value other, contains]

theorem contains_insert_self (a : Annotations) (name value : String) :
    (a.insert name value).contains name = true := by
  rw [contains, get?_insert, if_pos rfl, Option.isSome_some]

/-- Of two entries under one name the later one stays. -/
theorem insert_insert (a : Annotations) (name value value' : String) :
    (a.insert name value).insert name value' = a.insert name value' := by
  refine ext_get? fun n => ?_
  rw [get?_insert, get?_insert, get?_insert]
  split <;> rfl

/-- Entries under two names can be put in either order. -/
theorem insert_comm (a : Annotations) {name name' : String} (other : name ≠ name')
    (value value' : String) :
    (a.insert name value).insert name' value' = (a.insert name' value').insert name value := by
  refine ext_get? fun n => ?_
  rw [get?_insert, get?_insert, get?_insert, get?_insert]
  by_cases same : n = name
  · rw [if_pos same, if_pos same, if_neg fun same' => other (same.symm.trans same')]
  · rw [if_neg same, if_neg same]

end Annotations

end EntityBinding
