/-
  The loop of building, iteration by iteration.

  Before each iteration the table holds the records consumed so far and nothing else. So the index of
  values leads into the entries, the positions are ordinals, and the keys that an iteration inserts are
  new.

  * `Table.Reaches.size_indices`: the indices have as many keys as there were iterations.
  * `Table.Represents.entryOfValue?_of_byValue`: what the index of values leads to is in bounds.
  * `Table.Reaches.insertions`: what an iteration inserts.
  * `Table.exists_reaches_iff`: how far building comes.
  * `Table.build_loop_safe`: these facts about every iteration of every building.
-/
import IsaTable.Proofs.Contents

namespace IsaTable

namespace Table

/-- A key that no record has is not in their index. -/
theorem notMem_of_forall_key_ne {κ : Type} [BEq κ] [LawfulBEq κ] [Hashable κ] {key : Record → κ}
    {records : List Record} {m : Std.HashMap κ Nat}
    (hm : ∀ k i, m[k]? = some i ↔ ∃ q, records[i]? = some q ∧ key q = k) {k : κ}
    (hnew : ∀ q ∈ records, key q ≠ k) : k ∉ m := by
  intro hk
  obtain ⟨i, hi⟩ := Option.isSome_iff_exists.1 (Std.HashMap.mem_iff_isSome_getElem?.1 hk)
  obtain ⟨q, hq, hqk⟩ := (hm k i).1 hi
  exact hnew q (List.mem_of_getElem? hq) hqk

variable {records : List Record} {i : Nat} {t t' : Table} {r : Record}

/-- The index of values leads into the entries, so looking up what it leads to never falls through. -/
theorem Represents.entryOfValue?_of_byValue (h : t.Represents records) {value : Opcode} {first : Nat}
    (hfirst : t.byValue[value]? = some first) :
    ∃ _ : first < t.entries.size, t.entryOfValue? value = some t.entries[first] := by
  obtain ⟨q, hq, -⟩ := (h.byValue value first).1 hfirst
  have hlt : first < t.size := by
    rw [h.size_eq]
    exact (List.getElem?_eq_some_iff.1 hq).1
  refine ⟨hlt, ?_⟩
  rw [entryOfValue?, hfirst, Option.bind_some, Array.getElem?_eq_getElem hlt]

/-! ## One iteration -/

theorem Reaches.size_eq (h : Reaches records i t) : t.size = i := by
  rw [h.represents.size_eq, List.length_take, Nat.min_eq_left h.le_length]

/-- **An iteration that goes on** inserts the record under keys that are new, at the position. -/
theorem Reaches.insertions (h : Reaches records i t) (ha : t.add r = .ok t') :
    r.name ∉ t.byName ∧ r.opcode ∉ t.byValue ∧
      t'.entries = t.entries.push ⟨UInt32.ofNat i, r⟩ ∧
      t'.byName = t.byName.insert r.name i ∧ t'.byValue = t.byValue.insert r.opcode i := by
  have hrep := h.represents
  obtain ⟨hnew, rfl⟩ := hrep.add_eq_ok_iff.1 ha
  refine ⟨notMem_of_forall_key_ne hrep.byName fun q hq => (hnew q hq).1,
    notMem_of_forall_key_ne hrep.byValue fun q hq => (hnew q hq).2, ?_⟩
  rw [push, h.size_eq]
  exact ⟨rfl, rfl, rfl⟩

/-! ## All iterations -/

/-- Each insertion adds a key, so an index has as many as there were iterations. -/
theorem Reaches.size_indices (h : Reaches records i t) : t.byName.size = i ∧ t.byValue.size = i := by
  induction h with
  | start => exact ⟨Std.HashMap.size_empty, Std.HashMap.size_empty⟩
  | next ht _ ha ih =>
    obtain ⟨hnames, hvalues⟩ := ih
    obtain ⟨hname, hvalue, -, hn, hv⟩ := ht.insertions ha
    constructor
    · rw [hn, Std.HashMap.size_insert, if_neg hname, hnames]
    · rw [hv, Std.HashMap.size_insert, if_neg hvalue, hvalues]

/-- The record at a position before the current one is the entry there, found by its name. -/
theorem Reaches.entry_of_lt (h : Reaches records i t) {j : Nat} (hj : j < i) :
    ∃ r, records[j]? = some r ∧ t.entries[j]? = some ⟨UInt32.ofNat j, r⟩ ∧
      t.byName[r.name]? = some j := by
  have hlt : j < records.length := Nat.lt_of_lt_of_le hj h.le_length
  have hr : (records.take i)[j]? = some records[j] := by
    rw [List.getElem?_take_of_lt hj, List.getElem?_eq_getElem hlt]
  refine ⟨records[j], List.getElem?_eq_getElem hlt, ?_, (h.represents.byName _ j).2 ⟨_, hr, rfl⟩⟩
  rw [h.represents.entries, hr]
  rfl

theorem Reaches.byValue_eq_some_iff (h : Reaches records i t) {value : Opcode} {j : Nat} :
    t.byValue[value]? = some j ↔ j < i ∧ ∃ r, records[j]? = some r ∧ r.opcode = value := by
  rw [h.represents.byValue, List.getElem?_take]
  split
  · next hj => simp [hj]
  · next hj => simp [hj]

/-- **How far building comes**: to each position that has distinct records before it. -/
theorem exists_reaches_iff :
    (∃ t, Reaches records i t) ↔ i ≤ records.length ∧ Distinct (records.take i) := by
  constructor
  · rintro ⟨t, ht⟩
    exact ⟨ht.le_length, ht.represents.distinct⟩
  · rintro ⟨hi, hd⟩
    induction i with
    | zero => exact ⟨empty, .start⟩
    | succ i ih =>
      have hr : records[i]? = some records[i] := List.getElem?_eq_getElem hi
      rw [List.take_add_one, hr] at hd
      obtain ⟨hearlier, -, hnew⟩ := List.pairwise_append.1 hd
      obtain ⟨t, ht⟩ := ih (Nat.le_of_succ_le hi) hearlier
      -- the record at `i` is the last one that is to be distinct, so it is new to those before it
      have hlast : records[i] ∈ (some records[i]).toList := List.mem_singleton_self _
      have ha := ht.represents.add_eq_ok_iff.2 ⟨fun q hq => hnew q hq _ hlast, rfl⟩
      exact ⟨_, ht.next hr ha⟩

/-- **Every iteration of building is safe.** Building runs through the records to the end or to one
    that is refused, and comes to all positions whose earlier records are distinct. Before the
    iteration at a position there are as many entries, and keys in either index, as positions before
    it; the entry at each of these is the record there, under its name and with the position as its
    ordinal, and the index of values leads to the positions of the records with a value. So what this
    index leads to is in bounds. The iteration inserts keys that are in neither index, and the ordinal of
    its entry is the position itself. -/
theorem build_loop_safe (records : List Record) (hlen : records.length < UInt32.size) :
    (∀ result, build records = result ↔ Ends records result) ∧
    (∀ i, (∃ t, Reaches records i t) ↔ i ≤ records.length ∧ Distinct (records.take i)) ∧
    ∀ i t, Reaches records i t →
      (t.entries.size = i ∧ t.byName.size = i ∧ t.byValue.size = i) ∧
      (∀ j < i, ∃ r e, records[j]? = some r ∧ t.byName[r.name]? = some j ∧
        t.entries[j]? = some e ∧ e.record = r ∧ e.ordinal.toNat = j) ∧
      (∀ value j, t.byValue[value]? = some j ↔
        j < i ∧ ∃ r, records[j]? = some r ∧ r.opcode = value) ∧
      (∀ value first, t.byValue[value]? = some first →
        ∃ _ : first < t.entries.size, t.entryOfValue? value = some t.entries[first]) ∧
      ∀ r t', records[i]? = some r → t.add r = .ok t' →
        (r.name ∉ t.byName ∧ t'.byName = t.byName.insert r.name i) ∧
        (r.opcode ∉ t.byValue ∧ t'.byValue = t.byValue.insert r.opcode i) ∧
        ∃ e, t'.entries = t.entries.push e ∧ e.record = r ∧ e.ordinal.toNat = i := by
  refine ⟨fun result => build_eq_iff_ends hlen, fun i => exists_reaches_iff, fun i t ht =>
    ⟨⟨ht.size_eq, ht.size_indices⟩, fun j hj => ?_, fun value j => ht.byValue_eq_some_iff,
      fun value first hfirst => ht.represents.entryOfValue?_of_byValue hfirst, fun r t' hr ha => ?_⟩⟩
  · obtain ⟨r, hr, he, hname⟩ := ht.entry_of_lt hj
    exact ⟨r, _, hr, hname, he, rfl, toNat_ofNat_of_getElem? hlen hr⟩
  · obtain ⟨hname, hvalue, he, hn, hv⟩ := ht.insertions ha
    exact ⟨⟨hname, hn⟩, ⟨hvalue, hv⟩, _, he, rfl, toNat_ofNat_of_getElem? hlen hr⟩

/-- The third record has the value of the second one, which the index of values leads to; it is not
    added. -/
theorem build_loop_safe_shared_value :
    let add : Record := ⟨7, "ADD", ⟨.two, .zero⟩, none, 5⟩
    let sub : Record := ⟨9, "SUB", ⟨.two, .zero⟩, some "", 2⟩
    let mul : Record := ⟨9, "MUL", ⟨.two, .sign⟩, none, 3⟩
    let records := [add, sub, mul]
    records.length < UInt32.size ∧ ¬ (∃ t, Reaches records 3 t) ∧
      ∃ t, Reaches records 2 t ∧ t.byName.size = 2 ∧ t.byValue[mul.opcode]? = some 1 ∧
        ∃ _ : 1 < t.entries.size, t.entryOfValue? mul.opcode = some t.entries[1] := by
  intro add sub mul records
  have hlen : records.length < UInt32.size := by decide
  obtain ⟨-, hreached, hsafe⟩ := build_loop_safe records hlen
  have hthird : ¬ Distinct (records.take 3) := by decide
  have hsecond : 2 ≤ records.length ∧ Distinct (records.take 2) := by decide
  obtain ⟨t, ht⟩ := (hreached 2).2 hsecond
  obtain ⟨⟨-, hnames, -⟩, -, hvalue, hbounds, -⟩ := hsafe 2 t ht
  have hfirst : t.byValue[mul.opcode]? = some 1 := (hvalue _ 1).2 ⟨by decide, sub, rfl, rfl⟩
  exact ⟨hlen, fun h => hthird ((hreached 3).1 h).2, t, ht, hnames, hfirst, hbounds _ _ hfirst⟩

end Table

end IsaTable
