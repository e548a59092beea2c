/-!
# The entries of a tag

A tag gives values to names, and each name at most once.  `Annotations` keeps the
entries in ascending order of their names, so two tags with the same entries are
equal whatever order they were written in.
-/

namespace EntityBinding

/-- A list of entries with `value` put under `name`.  An entry of that name gives way
to the new one.  In an ascending list the new entry goes where its name belongs. -/
def putEntry (name value : String) : List (String × String) → List (String × String)
  | [] => [(name, value)]
  | (n, v) :: rest =>
      if name < n then (name, value) :: (n, v) :: rest
      else if name = n then (name, value) :: rest
      else (n, v) :: putEntry name value rest

/-- A list gains no entry but the one that was put. -/
theorem mem_putEntry {name value : String} {e : String × String} :
    ∀ {es : List (String × String)}, e ∈ putEntry name value es → e = (name, value) ∨ e ∈ es
  | [], h => by simpa [putEntry] using h
  | (n, v) :: rest, h => by
      unfold putEntry at h
      split at h
      · simpa using h
      · split at h
        · rcases List.mem_cons.1 h with h | h
          · exact .inl h
          · exact .inr (List.mem_cons_of_mem _ h)
        · rcases List.mem_cons.1 h with h | h
          · exact .inr (h ▸ List.mem_cons_self)
          · exact (mem_putEntry h).imp id (List.mem_cons_of_mem _)

/-- Putting an entry keeps a list ascending. -/
theorem pairwise_putEntry (name value : String) :
    ∀ {es : List (String × String)}, es.Pairwise (fun a b => a.1 < b.1) →
      (putEntry name value es).Pairwise (fun a b => a.1 < b.1)
  | [], _ => by simp [putEntry]
  | (n, v) :: rest, h => by
      obtain ⟨head, tail⟩ := List.pairwise_cons.1 h
      unfold putEntry
      split
      · rename_i below
        refine List.pairwise_cons.2 ⟨fun e he => ?_, h⟩
        rcases List.mem_cons.1 he with he | he
        · subst he
          exact below
        · exact String.lt_trans below (head e he)
      · split
        · rename_i same
          exact List.pairwise_cons.2 ⟨fun e he => by simpa [same] using head e he, tail⟩
        · rename_i notBelow notSame
          refine List.pairwise_cons.2 ⟨fun e he => ?_, pairwise_putEntry name value tail⟩
          rcases mem_putEntry he with he | he
          · subst he
            exact Std.lt_of_le_of_ne (Std.not_lt.1 notBelow) (fun same => notSame same.symm)
          · exact head e he

/-- The entries of a tag, in ascending order of their names. -/
@[ext]
structure Annotations where
  /-- The names with their values. -/
  entries : List (String × String)
  /-- The names ascend, so each stands once. -/
  ascending : entries.Pairwise (fun a b => a.1 < b.1)
  deriving DecidableEq

namespace Annotations

/-- No entries. -/
def empty : Annotations := ⟨[], .nil⟩

/-- The entries with `value` put under `name`, in place of an entry of that name. -/
def insert (a : Annotations) (name value : String) : Annotations :=
  ⟨putEntry name value a.entries, pairwise_putEntry name value a.ascending⟩

/-- The value under a name. -/
def get? (a : Annotations) (name : String) : Option String := a.entries.lookup name

/-- Whether a name has a value. -/
def contains (a : Annotations) (name : String) : Bool := (a.get? name).isSome

/-- The entries put one after the other, where a later one replaces an earlier one
of the same name. -/
def ofList (es : List (String × String)) : Annotations :=
  es.foldl (fun a e => a.insert e.1 e.2) empty

end Annotations

end EntityBinding
