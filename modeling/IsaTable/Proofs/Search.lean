/-
  Queries of a decode table as linear search over its records.

  * `Entry.placed`: an entry as a record with its position.
  * `Table.Represents.placed_entry?`, `Table.Represents.placed_entryOfValue?`: the indices find what a
    search from the front finds.
  * `Table.build_refines_search`: every query of a built table is answered from the records alone.
-/
import IsaTable.Proofs.Contents

namespace IsaTable

/-- An entry as a record with its position. -/
def Entry.placed (e : Entry) : Record × Nat :=
  (e.record, e.ordinal.toNat)

theorem Entry.placed_mk {records : List Record} {i : Nat} {r : Record}
    (hlen : records.length < UInt32.size) (hr : records[i]? = some r) :
    Entry.placed ⟨UInt32.ofNat i, r⟩ = (r, i) := by
  rw [placed, toNat_ofNat_of_getElem? hlen hr]

/-- The records with their positions, searched for a record, give what the records give. -/
theorem find?_zipIdx_map_fst (records : List Record) (p : Record → Bool) :
    (records.zipIdx.find? fun q => p q.1).map (·.1) = records.find? p := by
  have h := List.find?_map (p := p) (f := Prod.fst) (l := records.zipIdx)
  rw [List.zipIdx_map_fst] at h
  exact h.symm

namespace Table

variable {t : Table} {records : List Record}

theorem Represents.map_placed_toList (h : t.Represents records) (hlen : records.length < UInt32.size) :
    t.toList.map Entry.placed = records.zipIdx := by
  apply List.ext_getElem?
  intro i
  rw [List.getElem?_map, toList, Array.getElem?_toList, h.entries, List.getElem?_zipIdx]
  cases hi : records[i]? with
  | none => rfl
  | some r => simp [Entry.placed_mk hlen hi]

/-- **An index finds what a search from the front finds**, since no key occurs twice. -/
theorem Represents.placed_bind {κ : Type} [DecidableEq κ] {key : Record → κ} {k : κ}
    {i? : Option Nat} (h : t.Represents records) (hlen : records.length < UInt32.size)
    (hi : ∀ i, i? = some i ↔ ∃ r, records[i]? = some r ∧ key r = k) :
    (i?.bind (t.entries[·]?)).map Entry.placed = records.zipIdx.find? fun p => key p.1 = k := by
  cases hb : i?.bind (t.entries[·]?) with
  | none =>
    have hnone := (h.bind_getElem?_eq_none_iff hi).1 hb
    refine (List.find?_eq_none.2 fun p hp => ?_).symm
    simpa using hnone p.1 (List.mem_of_getElem? (List.mem_zipIdx_iff_getElem?.1 hp))
  | some e =>
    obtain ⟨i, r, hr, hk, rfl⟩ := (h.bind_getElem?_eq_some_iff hi).1 hb
    rw [Option.map_some, Entry.placed_mk hlen hr]
    cases hf : records.zipIdx.find? fun p => key p.1 = k with
    | none =>
      have := List.find?_eq_none.1 hf (r, i) (List.mem_zipIdx_iff_getElem?.2 hr)
      exact absurd hk (by simpa using this)
    | some p =>
      -- what the search finds has the key, so the index leads to its position too
      obtain ⟨q, j⟩ := p
      have hq : records[j]? = some q :=
        List.mem_zipIdx_iff_getElem?.1 (List.mem_of_find?_eq_some hf)
      have hqk : key q = k := by simpa using List.find?_some hf
      have hij : some i = some j :=
        ((hi i).2 ⟨r, hr, hk⟩).symm.trans ((hi j).2 ⟨q, hq, hqk⟩)
      obtain rfl := Option.some.inj hij
      rw [hr] at hq
      rw [Option.some.inj hq]

theorem Represents.placed_entry? (h : t.Represents records) (hlen : records.length < UInt32.size)
    (name : String) :
    (t.entry? name).map Entry.placed = records.zipIdx.find? fun p => p.1.name = name :=
  h.placed_bind hlen (h.byName name)

theorem Represents.placed_entryOfValue? (h : t.Represents records)
    (hlen : records.length < UInt32.size) (value : Opcode) :
    (t.entryOfValue? value).map Entry.placed = records.zipIdx.find? fun p => p.1.opcode = value :=
  h.placed_bind hlen (h.byValue value)

theorem Represents.placed_entryOfOrdinal? (h : t.Represents records)
    (hlen : records.length < UInt32.size) (o : UInt32) :
    (t.entryOfOrdinal? o).map Entry.placed = records.zipIdx[o.toNat]? := by
  rw [← h.map_placed_toList hlen, List.getElem?_map, toList, Array.getElem?_toList]
  rfl

/-- An entry is found by its name, by its value and by its ordinal. -/
theorem Represents.finds_entry (h : t.Represents records) (hlen : records.length < UInt32.size)
    {e : Entry} (he : e ∈ t.toList) :
    t.entry? e.record.name = some e ∧ t.entryOfValue? e.record.opcode = some e ∧
      t.entryOfOrdinal? e.ordinal = some e := by
  obtain ⟨i, r, hr, rfl⟩ := h.mem_toList_iff.1 he
  refine ⟨h.entry?_eq_some_iff.2 ⟨i, r, hr, rfl, rfl⟩,
    h.entryOfValue?_eq_some_iff.2 ⟨i, r, hr, rfl, rfl⟩, ?_⟩
  rw [entryOfOrdinal?, toNat_ofNat_of_getElem? hlen hr, h.entries, hr]
  rfl

/-- **The queries of a built table are linear search over its records.** The table lists the records
    in order with their positions as ordinals; names and values do not repeat, and each query gives
    the record that a search from the front finds. -/
theorem build_refines_search (hb : build records = .ok t) :
    t.toList.map Entry.placed = records.zipIdx ∧ t.size = records.length ∧
    (records.map (·.name)).Nodup ∧ (records.map (·.opcode)).Nodup ∧
    (∀ name : String,
      (t.entry? name).map Entry.placed = records.zipIdx.find? (fun p => p.1.name = name) ∧
      t.shape? name = (records.find? (·.name = name)).map (·.shape) ∧
      (t.ordinal? name).map (·.toNat) = records.findIdx? (·.name = name)) ∧
    (∀ value : Opcode,
      (t.entryOfValue? value).map Entry.placed =
        records.zipIdx.find? (fun p => p.1.opcode = value) ∧
      t.shapeOfValue? value =
        (records.find? (·.opcode = value)).map fun r => (r.name, r.shape)) ∧
    (∀ o : UInt32,
      (t.entryOfOrdinal? o).map Entry.placed = records.zipIdx[o.toNat]? ∧
      (t.entryOfOrdinal? o = none ↔ t.size ≤ o.toNat)) ∧
    ∀ e ∈ t.toList,
      t.entry? e.record.name = some e ∧ t.entryOfValue? e.record.opcode = some e ∧
        t.entryOfOrdinal? e.ordinal = some e := by
  obtain ⟨h, hlen⟩ := represents_of_build hb
  refine ⟨h.map_placed_toList hlen, h.size_eq, ?_, ?_, fun name => ⟨h.placed_entry? hlen name, ?_, ?_⟩,
    fun value => ⟨h.placed_entryOfValue? hlen value, ?_⟩,
    fun o => ⟨h.placed_entryOfOrdinal? hlen o, by simp [entryOfOrdinal?, size]⟩,
    fun e he => h.finds_entry hlen he⟩
  · exact List.pairwise_map.2 (pairwise_key_ne h.byName)
  · exact List.pairwise_map.2 (pairwise_key_ne h.byValue)
  · rw [← find?_zipIdx_map_fst, ← h.placed_entry? hlen name, shape?, Option.map_map, Option.map_map]
    rfl
  · rw [List.findIdx?_eq_fst_find?_zipIdx, ← h.placed_entry? hlen name, ordinal?, Option.map_map,
      Option.map_map]
    rfl
  · rw [← find?_zipIdx_map_fst, ← h.placed_entryOfValue? hlen value, shapeOfValue?, Option.map_map,
      Option.map_map]
    rfl

/-- Three opcodes out of order, one of them with the largest value. -/
theorem build_refines_search_three :
    let jump : Record := ⟨18446744073709551615, "J", ⟨.zero, .sign⟩, some "jump", 2⟩
    let add : Record := ⟨11, "ADD", ⟨.two, .zero⟩, none, 4⟩
    let load : Record := ⟨0, "LD", ⟨.one, .sign⟩, none, 9⟩
    let t := [jump, add, load].foldl push empty
    build [jump, add, load] = .ok t ∧
      (t.entry? "ADD").map Entry.placed = some (add, 1) ∧ t.shape? "NOP" = none ∧
      t.shapeOfValue? 18446744073709551615 = some ("J", ⟨.zero, .sign⟩) := by
  intro jump add load t
  have hb : build [jump, add, load] = .ok t := build_eq_ok_iff.2 ⟨by decide, by decide, rfl⟩
  obtain ⟨-, -, -, -, hname, hvalue, -⟩ := build_refines_search hb
  exact ⟨hb, (hname "ADD").1.trans (by decide), (hname "NOP").2.1.trans (by decide),
    (hvalue _).2.trans (by decide)⟩

end Table

end IsaTable
