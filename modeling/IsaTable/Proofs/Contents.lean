/-
  What a decode table holds, and how building it can end.

  * `Table.Represents`: the table holds given records in order, and its indices find just these.
  * `Table.represents_push`: one more record.
  * `Distinct`: no two records share a name or a value.
  * `Clash`: a record that shares a name or a value with an earlier one, and the error that names both.
  * `Table.Reaches`, `Table.Ends`: the tables that building comes by, and how it ends.
  * `Table.Reaches.represents`, `Table.build_eq_iff_ends`: each of these tables holds the records added
    so far, and building is such a run.
  * `Table.build_eq_ok_iff`, `Table.clash_of_build`: records have a table just when they are distinct;
    otherwise the error is about the first record that clashes.
-/
import IsaTable.Table.Build

namespace IsaTable

/-- No two records share a name or a value. -/
def Distinct (records : List Record) : Prop :=
  records.Pairwise fun q r => q.name ≠ r.name ∧ q.opcode ≠ r.opcode

instance (records : List Record) : Decidable (Distinct records) :=
  inferInstanceAs (Decidable (List.Pairwise _ records))

/-- A record that cannot stand behind earlier ones, with the error about it. A shared name counts
    before a shared value. -/
inductive Clash (earlier : List Record) (r : Record) : BuildError → Prop
  | name {first} : first ∈ earlier → first.name = r.name →
      Clash earlier r (.duplicateName r.name first.line r.line)
  | value {first} : (∀ q ∈ earlier, q.name ≠ r.name) → first ∈ earlier →
      first.opcode = r.opcode → Clash earlier r (.duplicateValue r.opcode first.line r.line)

/-- A record that clashes with earlier ones is not distinct from them. -/
theorem Clash.not_distinct {earlier later : List Record} {r : Record} {e : BuildError}
    (h : Clash earlier r e) : ¬ Distinct (earlier ++ r :: later) := by
  intro hd
  have hr : ∀ q ∈ earlier, q.name ≠ r.name ∧ q.opcode ≠ r.opcode :=
    fun q hq => (List.pairwise_append.1 hd).2.2 q hq r (by simp)
  cases h with
  | name hm hn => exact (hr _ hm).1 hn
  | value _ hm hv => exact (hr _ hm).2 hv

/-- No ordinal is cut off if there are ordinals for all records. -/
theorem toNat_ofNat_of_getElem? {records : List Record} {i : Nat} {r : Record}
    (hlen : records.length < UInt32.size) (hr : records[i]? = some r) :
    (UInt32.ofNat i).toNat = i :=
  UInt32.toNat_ofNat_of_lt' (Nat.lt_trans (List.getElem?_eq_some_iff.1 hr).1 hlen)

namespace Table

/-- The table holds given records in order, each with its position, and its indices lead to the
    positions of the names and values of these records and to no others. -/
structure Represents (t : Table) (records : List Record) : Prop where
  entries : ∀ i : Nat, t.entries[i]? = records[i]?.map (⟨UInt32.ofNat i, ·⟩)
  byName : ∀ (name : String) (i : Nat),
    t.byName[name]? = some i ↔ ∃ r, records[i]? = some r ∧ r.name = name
  byValue : ∀ (value : Opcode) (i : Nat),
    t.byValue[value]? = some i ↔ ∃ r, records[i]? = some r ∧ r.opcode = value

theorem represents_empty : empty.Represents [] where
  entries i := by simp [empty]
  byName name i := by simp [empty]
  byValue value i := by simp [empty]

/-- An index that leads to the positions of the keys of a list, after one more item whose key is
    new. -/
theorem getElem?_insert_length {κ : Type} [BEq κ] [LawfulBEq κ] [Hashable κ] {key : Record → κ}
    {records : List Record} {r : Record} {m : Std.HashMap κ Nat}
    (hm : ∀ k i, m[k]? = some i ↔ ∃ q, records[i]? = some q ∧ key q = k)
    (hnew : ∀ q ∈ records, key q ≠ key r) (k : κ) (i : Nat) :
    (m.insert (key r) records.length)[k]? = some i ↔
      ∃ q, (records ++ [r])[i]? = some q ∧ key q = k := by
  rw [Std.HashMap.getElem?_insert]
  rcases Nat.lt_trichotomy i records.length with hi | rfl | hi
  · -- an earlier position: the new key is not that of its record
    rw [List.getElem?_append_left hi, ← hm]
    split
    · next hk =>
      obtain rfl := eq_of_beq hk
      constructor
      · intro h
        exact absurd (Option.some.inj h) (by omega)
      · intro h
        obtain ⟨q, hq, hqk⟩ := (hm _ _).1 h
        exact absurd hqk (hnew q (List.mem_of_getElem? hq))
    · rfl
  · split
    · next hk =>
      obtain rfl := eq_of_beq hk
      simp
    · next hk =>
      have hne : key r ≠ k := fun h => hk (by simp [h])
      simp [hm, hne]
  · have hbig : (records ++ [r])[i]? = none := by simp; omega
    have hnone : records[i]? = none := by simp; omega
    rw [hbig]
    split
    · next hk => simp; omega
    · simp [hm, hnone]

section
variable {t t' : Table} {records : List Record}

theorem Represents.size_eq (h : t.Represents records) : t.size = records.length := by
  have hi (i : Nat) : t.entries.size ≤ i ↔ records.length ≤ i := by
    simpa using congrArg (· = none) (h.entries i)
  exact Nat.le_antisymm ((hi _).2 (Nat.le_refl _)) ((hi _).1 (Nat.le_refl _))

theorem Represents.mem_toList_iff (h : t.Represents records) {e : Entry} :
    e ∈ t.toList ↔ ∃ i r, records[i]? = some r ∧ e = ⟨UInt32.ofNat i, r⟩ := by
  rw [toList, List.mem_iff_getElem?]
  simp only [Array.getElem?_toList, h.entries, Option.map_eq_some_iff, eq_comm (b := e)]

theorem Represents.map_record_toList (h : t.Represents records) :
    t.toList.map (·.record) = records := by
  apply List.ext_getElem?
  intro i
  rw [List.getElem?_map, toList, Array.getElem?_toList, h.entries]
  cases records[i]? <;> rfl

/-- **One more record**, whose name and value are new. -/
theorem represents_push (h : t.Represents records) {r : Record}
    (hnew : ∀ q ∈ records, q.name ≠ r.name ∧ q.opcode ≠ r.opcode) :
    (t.push r).Represents (records ++ [r]) where
  entries i := by
    have hsize := h.size_eq
    rw [size] at hsize
    simp only [push, Array.getElem?_push, size, hsize]
    split
    · next hi => simp [hi]
    · next hi =>
      rw [h.entries]
      rcases Nat.lt_or_ge i records.length with hlt | hge
      · rw [List.getElem?_append_left hlt]
      · have h₁ : records[i]? = none := by simp [hge]
        have h₂ : (records ++ [r])[i]? = none := by simp; omega
        rw [h₁, h₂]
  byName := by
    rw [push, h.size_eq]
    exact getElem?_insert_length h.byName fun q hq => (hnew q hq).1
  byValue := by
    rw [push, h.size_eq]
    exact getElem?_insert_length h.byValue fun q hq => (hnew q hq).2

/-! ## Finding records -/

/-- What an index leads to: the record with the key, at its position. -/
theorem Represents.bind_getElem?_eq_some_iff {κ : Type} {key : Record → κ} {k : κ} {i? : Option Nat}
    (h : t.Represents records)
    (hi : ∀ i, i? = some i ↔ ∃ r, records[i]? = some r ∧ key r = k) {e : Entry} :
    i?.bind (t.entries[·]?) = some e ↔
      ∃ i r, records[i]? = some r ∧ key r = k ∧ e = ⟨UInt32.ofNat i, r⟩ := by
  rw [Option.bind_eq_some_iff]
  constructor
  · rintro ⟨i, hik, he⟩
    obtain ⟨r, hr, hk⟩ := (hi i).1 hik
    refine ⟨i, r, hr, hk, ?_⟩
    rw [h.entries, hr] at he
    exact (Option.some.inj he).symm
  · rintro ⟨i, r, hr, hk, rfl⟩
    refine ⟨i, (hi i).2 ⟨r, hr, hk⟩, ?_⟩
    rw [h.entries, hr]
    rfl

/-- An index leads nowhere just when no record has the key. -/
theorem Represents.bind_getElem?_eq_none_iff {κ : Type} {key : Record → κ} {k : κ} {i? : Option Nat}
    (h : t.Represents records)
    (hi : ∀ i, i? = some i ↔ ∃ r, records[i]? = some r ∧ key r = k) :
    i?.bind (t.entries[·]?) = none ↔ ∀ r ∈ records, key r ≠ k := by
  rw [Option.eq_none_iff_forall_ne_some]
  constructor
  · intro hn r hr hk
    obtain ⟨i, hri⟩ := List.getElem?_of_mem hr
    exact hn _ ((h.bind_getElem?_eq_some_iff hi).2 ⟨i, r, hri, hk, rfl⟩)
  · intro hn e he
    obtain ⟨i, r, hri, hk, -⟩ := (h.bind_getElem?_eq_some_iff hi).1 he
    exact hn r (List.mem_of_getElem? hri) hk

theorem Represents.entry?_eq_some_iff (h : t.Represents records) {name : String} {e : Entry} :
    t.entry? name = some e ↔
      ∃ i r, records[i]? = some r ∧ r.name = name ∧ e = ⟨UInt32.ofNat i, r⟩ :=
  h.bind_getElem?_eq_some_iff (h.byName name)

theorem Represents.entry?_eq_none_iff (h : t.Represents records) {name : String} :
    t.entry? name = none ↔ ∀ r ∈ records, r.name ≠ name :=
  h.bind_getElem?_eq_none_iff (h.byName name)

theorem Represents.entryOfValue?_eq_some_iff (h : t.Represents records) {value : Opcode}
    {e : Entry} :
    t.entryOfValue? value = some e ↔
      ∃ i r, records[i]? = some r ∧ r.opcode = value ∧ e = ⟨UInt32.ofNat i, r⟩ :=
  h.bind_getElem?_eq_some_iff (h.byValue value)

theorem Represents.entryOfValue?_eq_none_iff (h : t.Represents records) {value : Opcode} :
    t.entryOfValue? value = none ↔ ∀ r ∈ records, r.opcode ≠ value :=
  h.bind_getElem?_eq_none_iff (h.byValue value)

/-! ## Adding records -/

/-- A record is added just when no record of the table has its name or its value. -/
theorem Represents.add_eq_ok_iff (h : t.Represents records) {r : Record} :
    t.add r = .ok t' ↔
      (∀ q ∈ records, q.name ≠ r.name ∧ q.opcode ≠ r.opcode) ∧ t' = t.push r := by
  rw [Table.add_eq_ok_iff, h.entry?_eq_none_iff, h.entryOfValue?_eq_none_iff]
  constructor
  · rintro ⟨hn, hv, rfl⟩
    exact ⟨fun q hq => ⟨hn q hq, hv q hq⟩, rfl⟩
  · rintro ⟨hnew, rfl⟩
    exact ⟨fun q hq => (hnew q hq).1, fun q hq => (hnew q hq).2, rfl⟩

/-- A record that is refused clashes with the records of the table. -/
theorem Represents.clash_of_add (h : t.Represents records) {r : Record} {e : BuildError}
    (he : t.add r = .error e) : Clash records r e := by
  unfold add at he
  split at he
  · next first hname =>
    obtain ⟨i, q, hq, hqr, rfl⟩ := h.entry?_eq_some_iff.1 hname
    cases he
    exact .name (List.mem_of_getElem? hq) hqr
  · next hname =>
    split at he
    · next first hvalue =>
      obtain ⟨i, q, hq, hqr, rfl⟩ := h.entryOfValue?_eq_some_iff.1 hvalue
      cases he
      exact .value (h.entry?_eq_none_iff.1 hname) (List.mem_of_getElem? hq) hqr
    · cases he

/-- An index leads to one position only, so the keys of the records are distinct. -/
theorem pairwise_key_ne {κ : Type} {key : Record → κ} {index : κ → Option Nat}
    (hi : ∀ k i, index k = some i ↔ ∃ r, records[i]? = some r ∧ key r = k) :
    records.Pairwise fun q r => key q ≠ key r := by
  rw [List.pairwise_iff_getElem]
  intro i j hleft hright hij hk
  have hfirst := (hi (key records[j]) i).2 ⟨_, List.getElem?_eq_getElem hleft, hk⟩
  have hsecond := (hi (key records[j]) j).2 ⟨_, List.getElem?_eq_getElem hright, rfl⟩
  rw [hfirst] at hsecond
  exact absurd (Option.some.inj hsecond) (by omega)

theorem Represents.distinct (h : t.Represents records) : Distinct records :=
  (pairwise_key_ne h.byName).and (pairwise_key_ne h.byValue)

end

/-! ## The run of additions -/

/-- Building the table of `records` comes to position `i`, with the table of the records before it. -/
inductive Reaches (records : List Record) : Nat → Table → Prop
  | start : Reaches records 0 empty
  | next {i : Nat} {t t' : Table} {r : Record} : Reaches records i t → records[i]? = some r →
      t.add r = .ok t' → Reaches records (i + 1) t'

/-- How building ends: behind the last record, or at one that is refused. -/
inductive Ends (records : List Record) : Except BuildError Table → Prop
  | all {t : Table} : Reaches records records.length t → Ends records (.ok t)
  | refused {i : Nat} {t : Table} {r : Record} {e : BuildError} : Reaches records i t →
      records[i]? = some r → t.add r = .error e → Ends records (.error e)

section
variable {records : List Record} {i : Nat} {t : Table}

theorem Reaches.le_length (h : Reaches records i t) : i ≤ records.length := by
  cases h with
  | start => exact Nat.zero_le _
  | next _ hr _ => exact (List.getElem?_eq_some_iff.1 hr).1

/-- **The invariant of building**: the table holds the records before the position. -/
theorem Reaches.represents (h : Reaches records i t) : t.Represents (records.take i) := by
  induction h with
  | start => exact represents_empty
  | next _ hr ha ih =>
    obtain ⟨hnew, rfl⟩ := ih.add_eq_ok_iff.1 ha
    rw [List.take_add_one, hr]
    exact represents_push ih hnew

theorem Reaches.eq_foldl_push (h : Reaches records i t) : t = (records.take i).foldl push empty := by
  induction h with
  | start => rfl
  | next _ hr ha ih =>
    rw [List.take_add_one, hr, List.foldl_append, ← ih]
    exact (add_eq_ok_iff.1 ha).2.2

/-- Building goes on from a table on its way as it would from the start. -/
theorem Reaches.foldlM_drop (h : Reaches records i t) :
    records.foldlM add empty = (records.drop i).foldlM add t := by
  induction h with
  | start => rfl
  | next _ hr ha ih =>
    obtain ⟨hi, rfl⟩ := List.getElem?_eq_some_iff.1 hr
    rw [ih, List.drop_eq_getElem_cons hi, List.foldlM_cons, ha]
    rfl

/-- From a table on its way, building comes to an end. -/
theorem Reaches.ends {i : Nat} {t : Table} (h : Reaches records i t) :
    Ends records ((records.drop i).foldlM add t) := by
  -- by induction on the number of records that are left
  by_cases hi : i < records.length
  · have hr : records[i]? = some records[i] := List.getElem?_eq_getElem hi
    rw [List.drop_eq_getElem_cons hi, List.foldlM_cons]
    cases ha : t.add records[i] with
    | error e => exact .refused h hr ha
    | ok t' => exact (h.next hr ha).ends
  · obtain rfl : i = records.length := Nat.le_antisymm h.le_length (Nat.le_of_not_lt hi)
    rw [List.drop_length]
    exact .all h
termination_by records.length - i

/-- **Building is the run of additions.** -/
theorem build_eq_iff_ends (hlen : records.length < UInt32.size) {result : Except BuildError Table} :
    build records = result ↔ Ends records result := by
  rw [build, if_pos hlen]
  constructor
  · rintro rfl
    exact Reaches.start.ends
  · rintro (⟨ht⟩ | ⟨ht, hr, he⟩)
    · rw [ht.foldlM_drop, List.drop_length]
      rfl
    · obtain ⟨hi, rfl⟩ := List.getElem?_eq_some_iff.1 hr
      rw [ht.foldlM_drop, List.drop_eq_getElem_cons hi, List.foldlM_cons, he]
      rfl

end

/-! ## Building -/

/-- The records of a built table have ordinals, and all of them were added. -/
theorem reaches_of_build {records : List Record} {t : Table} (h : build records = .ok t) :
    records.length < UInt32.size ∧ Reaches records records.length t := by
  by_cases hlen : records.length < UInt32.size
  · cases (build_eq_iff_ends hlen).1 h with
    | all ht => exact ⟨hlen, ht⟩
  · rw [build, if_neg hlen] at h
    cases h

/-- **A built table holds the records it was built from**, each of which has an ordinal. -/
theorem represents_of_build {records : List Record} {t : Table} (h : build records = .ok t) :
    t.Represents records ∧ records.length < UInt32.size := by
  obtain ⟨hlen, ht⟩ := reaches_of_build h
  have hrep := ht.represents
  rw [List.take_length] at hrep
  exact ⟨hrep, hlen⟩

/-- **A failed building** is about the first record that clashes with those before it. -/
theorem clash_of_build {records : List Record} {e : BuildError} (hlen : records.length < UInt32.size)
    (h : build records = .error e) :
    ∃ earlier r later, records = earlier ++ r :: later ∧ Distinct earlier ∧ Clash earlier r e := by
  cases (build_eq_iff_ends hlen).1 h with
  | @refused i t r _ ht hr he =>
    obtain ⟨hi, rfl⟩ := List.getElem?_eq_some_iff.1 hr
    refine ⟨records.take i, records[i], records.drop (i + 1), ?_, ht.represents.distinct,
      ht.represents.clash_of_add he⟩
    rw [← List.drop_eq_getElem_cons hi, List.take_append_drop]

/-- **Records have a table just when they are distinct** and there are ordinals for them; the table
    comes from pushing them in order. -/
theorem build_eq_ok_iff {records : List Record} {t : Table} :
    build records = .ok t ↔
      records.length < UInt32.size ∧ Distinct records ∧ t = records.foldl push empty := by
  have heq {t : Table} (hb : build records = .ok t) : t = records.foldl push empty := by
    rw [(reaches_of_build hb).2.eq_foldl_push, List.take_length]
  constructor
  · intro hb
    obtain ⟨ht, hlen⟩ := represents_of_build hb
    exact ⟨hlen, ht.distinct, heq hb⟩
  · rintro ⟨hlen, hd, rfl⟩
    cases hb : build records with
    | ok t => rw [heq hb]
    | error e =>
      obtain ⟨earlier, r, later, rfl, -, hc⟩ := clash_of_build hlen hb
      exact absurd hd hc.not_distinct

theorem exists_build_iff {records : List Record} :
    (∃ t, build records = .ok t) ↔ records.length < UInt32.size ∧ Distinct records := by
  simp only [build_eq_ok_iff]
  constructor
  · rintro ⟨t, hlen, hd, -⟩
    exact ⟨hlen, hd⟩
  · rintro ⟨hlen, hd⟩
    exact ⟨_, hlen, hd, rfl⟩

end Table

end IsaTable
