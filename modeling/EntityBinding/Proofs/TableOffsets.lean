import EntityBinding.Model.Entity
import Mathlib.Data.List.Nodup
import Mathlib.Tactic.Common

/-!
# Offsets in the table of the buffer

The slot of a property has 32 bits and wraps, the offset is worked out with 64 bits and written with
16.  With 64 bits nothing wraps (`toNat_wideOffset`), so the slot of a property without an id lies
above all others and its offset does not fit.  With 32 bits the sum would wrap around to 2, which
fits.

The offsets that fit are those of the ids from 1 to 32766 (`tableOffset_eq_ok_iff`), and they grow
with the ids (`tableOffset_lt_iff`).  So properties with different ids never share an offset
(`tableOffset_layout`).
-/

namespace EntityBinding.Property

/-! ## The offset before it is written -/

/-- The slot of a property with an id is the id less one. -/
theorem toNat_slot_of_pos {p : Property} (assigned : 0 < p.id.toNat) :
    p.slot.toNat = p.id.toNat - 1 := by
  have one : (1 : UInt32) ≤ p.id := UInt32.le_iff_toNat_le.2 assigned
  exact UInt32.toNat_sub_of_le _ _ one

/-- The slot of a property without an id is the largest number of 32 bits. -/
theorem toNat_slot_of_zero {p : Property} (unassigned : p.id = 0) : p.slot.toNat = 4294967295 := by
  rw [slot, unassigned]
  rfl

/-- The size of the slots before that of a property fits 64 bits. -/
theorem toNat_slotSize_mul (p : Property) :
    (slotSize * p.slot.toUInt64).toNat = 2 * p.slot.toNat := by
  have small := p.slot.toNat_lt
  rw [UInt64.toNat_mul, UInt32.toNat_toUInt64]
  show 2 * p.slot.toNat % 2 ^ 64 = _
  exact Nat.mod_eq_of_lt (by omega)

/-- With 64 bits the offset does not wrap. -/
theorem toNat_wideOffset (p : Property) : p.wideOffset.toNat = 4 + 2 * p.slot.toNat := by
  have small := p.slot.toNat_lt
  rw [wideOffset, UInt64.toNat_add, toNat_slotSize_mul]
  show (4 + 2 * p.slot.toNat) % 2 ^ 64 = _
  exact Nat.mod_eq_of_lt (by omega)

/-- The offsets that fit 16 bits are those of the ids from 1 to 32766. -/
theorem wideOffset_le_iff (p : Property) :
    p.wideOffset ≤ 0xFFFF ↔ 1 ≤ p.id.toNat ∧ p.id.toNat ≤ 32766 := by
  rw [UInt64.le_iff_toNat_le, toNat_wideOffset]
  show 4 + 2 * p.slot.toNat ≤ 65535 ↔ _
  by_cases unassigned : p.id = 0
  · rw [toNat_slot_of_zero unassigned, unassigned]
    decide
  · have assigned : 0 < p.id.toNat := by
      rw [Nat.pos_iff_ne_zero, ne_eq, ← UInt32.toNat_zero, UInt32.toNat_inj]
      exact unassigned
    rw [toNat_slot_of_pos assigned]
    omega

/-! ## The offset that is written -/

/-- A property with an id from 1 to 32766 has the offset of its slot. -/
theorem tableOffset_eq_ok_iff {p : Property} {o : UInt16} :
    p.tableOffset = .ok o ↔
      (1 ≤ p.id.toNat ∧ p.id.toNat ≤ 32766) ∧ o.toNat = 4 + 2 * (p.id.toNat - 1) := by
  rw [tableOffset]
  by_cases fits : 1 ≤ p.id.toNat ∧ p.id.toNat ≤ 32766
  · have written : p.wideOffset.toUInt16.toNat = 4 + 2 * (p.id.toNat - 1) := by
      rw [UInt64.toNat_toUInt16, toNat_wideOffset, toNat_slot_of_pos fits.1]
      exact Nat.mod_eq_of_lt (by omega)
    rw [if_pos (p.wideOffset_le_iff.2 fits), Except.ok.injEq, ← UInt16.toNat_inj, written]
    exact ⟨fun same => ⟨fits, same.symm⟩, fun ⟨_, same⟩ => same.symm⟩
  · rw [if_neg (mt p.wideOffset_le_iff.1 fits)]
    simp [fits]

/-- Any other property has none, and the error names the property and its id. -/
theorem tableOffset_eq_error_iff {p : Property} {err : DiscoveryError} :
    p.tableOffset = .error err ↔
      (p.id.toNat = 0 ∨ 32766 < p.id.toNat) ∧ err = .tableOffsetOverflow p.name p.id := by
  have outside : (p.id.toNat = 0 ∨ 32766 < p.id.toNat) ↔
      ¬(1 ≤ p.id.toNat ∧ p.id.toNat ≤ 32766) := by omega
  rw [tableOffset, outside, ← p.wideOffset_le_iff]
  by_cases fits : p.wideOffset ≤ 0xFFFF
  · simp [fits]
  · simp [fits, eq_comm]

theorem exists_tableOffset_iff {p : Property} :
    (∃ o, p.tableOffset = .ok o) ↔ 1 ≤ p.id.toNat ∧ p.id.toNat ≤ 32766 := by
  constructor
  · rintro ⟨o, written⟩
    exact (tableOffset_eq_ok_iff.1 written).1
  · intro fits
    cases written : p.tableOffset with
    | ok o => exact ⟨o, rfl⟩
    | error err =>
        have outside := (tableOffset_eq_error_iff.1 written).1
        omega

/-- A caller that cannot go on without the offset gets it if there is one. -/
theorem requireTableOffset_eq_ok_iff {p : Property} {o : UInt16} :
    p.requireTableOffset = .ok o ↔ p.tableOffset = .ok o := by
  rw [requireTableOffset]
  cases p.tableOffset with
  | ok written => simp
  | error err => simp

/-- It ends with the text of the error if there is none. -/
theorem requireTableOffset_eq_error_iff {p : Property} {last : Abort} :
    p.requireTableOffset = .error last ↔
      ∃ err, p.tableOffset = .error err ∧ last.message = err.message := by
  rw [requireTableOffset]
  cases p.tableOffset with
  | ok written => simp
  | error err =>
      obtain ⟨message⟩ := last
      simp [eq_comm]

/-- Offsets grow with the ids. -/
theorem tableOffset_lt_iff {p q : Property} {a b : UInt16} (first : p.tableOffset = .ok a)
    (second : q.tableOffset = .ok b) : a < b ↔ p.id < q.id := by
  obtain ⟨⟨_, _⟩, written⟩ := tableOffset_eq_ok_iff.1 first
  obtain ⟨⟨_, _⟩, written'⟩ := tableOffset_eq_ok_iff.1 second
  rw [UInt16.lt_iff_toNat_lt, UInt32.lt_iff_toNat_lt, written, written']
  omega

/-- Properties share an offset only if they share their id. -/
theorem id_eq_of_tableOffset_eq {p q : Property} {o : UInt16} (first : p.tableOffset = .ok o)
    (second : q.tableOffset = .ok o) : p.id = q.id := by
  obtain ⟨⟨_, _⟩, written⟩ := tableOffset_eq_ok_iff.1 first
  obtain ⟨⟨_, _⟩, written'⟩ := tableOffset_eq_ok_iff.1 second
  rw [← UInt32.toNat_inj]
  omega

/-- An offset that is written is even and lies between 4 and 65534. -/
theorem tableOffset_bounds {p : Property} {o : UInt16} (written : p.tableOffset = .ok o) :
    o.toNat % 2 = 0 ∧ 4 ≤ o.toNat ∧ o.toNat ≤ 65534 := by
  obtain ⟨⟨_, _⟩, same⟩ := tableOffset_eq_ok_iff.1 written
  omega

/-- For all ids the offset is worked out without wrapping, and it is written for those from 1 to
32766.  The other properties have an error with their name and their id, and only a caller that
cannot go on without the offset ends with its text.  The properties of an entity whose ids differ
have offsets that differ, and that are in the order of the ids. -/
theorem tableOffset_layout :
    (∀ p : Property,
      (p.id = 0 → p.slot.toNat = 4294967295) ∧
      (slotSize * p.slot.toUInt64).toNat = 2 * p.slot.toNat ∧
      p.wideOffset.toNat = 4 + 2 * p.slot.toNat ∧
      ((∃ o, p.tableOffset = .ok o) ↔ 1 ≤ p.id.toNat ∧ p.id.toNat ≤ 32766) ∧
      (∀ o, p.tableOffset = .ok o → o.toNat = 4 + 2 * (p.id.toNat - 1)) ∧
      (∀ err, p.tableOffset = .error err ↔
        (p.id.toNat = 0 ∨ 32766 < p.id.toNat) ∧ err = .tableOffsetOverflow p.name p.id) ∧
      (∀ o, p.requireTableOffset = .ok o ↔ p.tableOffset = .ok o) ∧
      ∀ last : Abort, p.requireTableOffset = .error last ↔
        ∃ err, p.tableOffset = .error err ∧ last.message = err.message) ∧
    ∀ e : Entity, (e.properties.map Property.id).Nodup →
      ∀ (i j : Nat) (p q : Property) (a b : UInt16), i ≠ j →
        e.properties[i]? = some p → e.properties[j]? = some q →
        p.tableOffset = .ok a → q.tableOffset = .ok b →
          a ≠ b ∧ (a < b ↔ p.id < q.id) ∧ a.toNat % 2 = 0 ∧ 4 ≤ a.toNat ∧ a.toNat ≤ 65534 := by
  constructor
  · intro p
    exact ⟨toNat_slot_of_zero, p.toNat_slotSize_mul, p.toNat_wideOffset, exists_tableOffset_iff,
      fun _ written => (tableOffset_eq_ok_iff.1 written).2, fun _ => tableOffset_eq_error_iff,
      fun _ => requireTableOffset_eq_ok_iff, fun _ => requireTableOffset_eq_error_iff⟩
  · intro e different i j p q a b apart at_i at_j first second
    refine ⟨?_, tableOffset_lt_iff first second, tableOffset_bounds first⟩
    rintro rfl
    have same : (e.properties.map Property.id)[i]? = (e.properties.map Property.id)[j]? := by
      rw [List.getElem?_map, List.getElem?_map, at_i, at_j, Option.map_some, Option.map_some,
        id_eq_of_tableOffset_eq first second]
    obtain ⟨inRange, -⟩ := List.getElem?_eq_some_iff.1 at_i
    exact apart ((List.getElem?_inj (by simpa using inRange) different).1 same)

/-- The last id with an offset, and the next one. -/
example :
    let p := Property.new "Name" "string" .string .offset
    ({ p with id := 32766 }.tableOffset, { p with id := 32767 }.tableOffset) =
      (.ok 65534, .error (.tableOffsetOverflow "Name" 32767)) := by
  rfl

/-- An entity whose two properties have the last ids with an offset. -/
def lastNumbered : Entity :=
  let named := ((Entity.new "User").push (.new "Id" "uint64" .long .uint64)).push
    (.new "Name" "string" .string .offset)
  (named.modify 0 ({ · with id := 32765 })).modify 1 ({ · with id := 32766 })

/-- Its offsets are the last two, in the order of the ids. -/
theorem tableOffset_layout_lastNumbered :
    (lastNumbered.properties.map Property.id).Nodup ∧
      ∃ p q, lastNumbered.properties = [p, q] ∧ p.tableOffset = .ok 65532 ∧
        q.tableOffset = .ok 65534 ∧ ((65532 : UInt16) < 65534 ↔ p.id < q.id) := by
  have different : (lastNumbered.properties.map Property.id).Nodup := by decide
  obtain ⟨-, apart⟩ := tableOffset_layout
  obtain ⟨-, ordered, -⟩ :=
    apart lastNumbered different 0 1 _ _ 65532 65534 (by decide) rfl rfl rfl rfl
  exact ⟨different, _, _, rfl, rfl, rfl, ordered⟩

end EntityBinding.Property
