/-
  Errors about records.

  Building stops at the first record that repeats the name or the value of an earlier one. The records
  before it are distinct, so there is just one that it repeats, and the error has the lines of both.

  * `RepeatsAt`: a position whose record repeats a name or a value.
  * `filter_key_eq_singleton`: among records with distinct keys, one has a given key.
  * `Table.exists_build_error_iff`: building fails just when names or values repeat.
  * `Table.build_first_repetition`: when building fails, and with which error.
-/
import IsaTable.Proofs.Contents

namespace IsaTable

/-- The record at position `j` has the name or the value of a record at an earlier position. -/
def RepeatsAt (records : List Record) (j : Nat) : Prop :=
  ∃ r, records[j]? = some r ∧ ∃ q ∈ records.take j, q.name = r.name ∨ q.opcode = r.opcode

instance (records : List Record) (j : Nat) : Decidable (RepeatsAt records j) :=
  match h : records[j]? with
  | none => isFalse (by simp [RepeatsAt, h])
  | some r =>
    decidable_of_iff (∃ q ∈ records.take j, q.name = r.name ∨ q.opcode = r.opcode)
      (by simp [RepeatsAt, h])

variable {records earlier later : List Record}

theorem distinct_iff_nodup :
    Distinct records ↔ (records.map (·.name)).Nodup ∧ (records.map (·.opcode)).Nodup := by
  rw [List.Nodup, List.Nodup, List.pairwise_map, List.pairwise_map]
  exact List.pairwise_and_iff

/-- No position among distinct records repeats, whatever stands behind them. -/
theorem Distinct.not_repeatsAt (h : Distinct earlier) {j : Nat} (hj : j < earlier.length) :
    ¬ RepeatsAt (earlier ++ later) j := by
  rintro ⟨r, hr, q, hq, hshare⟩
  rw [List.getElem?_append_left hj] at hr
  rw [List.take_append_of_le_length (Nat.le_of_lt hj)] at hq
  have hdrop : r ∈ earlier.drop j := by
    rw [List.mem_iff_getElem?]
    exact ⟨0, by simpa using hr⟩
  rw [← List.take_append_drop j earlier] at h
  obtain ⟨hname, hvalue⟩ := (List.pairwise_append.1 h).2.2 q hq r hdrop
  exact hshare.elim hname hvalue

/-- **Among records with distinct keys, one has a given key.** -/
theorem filter_key_eq_singleton {κ : Type} [DecidableEq κ] {key : Record → κ}
    (h : records.Pairwise fun q r => key q ≠ key r) {first : Record} (hfirst : first ∈ records) :
    records.filter (key · = key first) = [first] := by
  obtain ⟨before, after, rfl⟩ := List.append_of_mem hfirst
  obtain ⟨-, hafter, hbefore⟩ := List.pairwise_append.1 h
  have hnone : before.filter (key · = key first) = [] := by
    simp only [List.filter_eq_nil_iff, decide_eq_true_eq]
    exact fun q hq => hbefore q hq first List.mem_cons_self
  have hrest : after.filter (key · = key first) = [] := by
    simp only [List.filter_eq_nil_iff, decide_eq_true_eq]
    exact fun q hq => ((List.pairwise_cons.1 hafter).1 q hq).symm
  rw [List.filter_append, List.filter_cons_of_pos (by simp), hnone, hrest, List.nil_append]

namespace Table

/-- **Building fails just when names or values repeat.** -/
theorem exists_build_error_iff (hlen : records.length < UInt32.size) :
    (∃ e, build records = .error e) ↔
      ¬ ((records.map (·.name)).Nodup ∧ (records.map (·.opcode)).Nodup) := by
  rw [← distinct_iff_nodup]
  constructor
  · rintro ⟨e, he⟩ hd
    obtain ⟨t, ht⟩ := exists_build_iff.2 ⟨hlen, hd⟩
    rw [ht] at he
    cases he
  · intro hd
    cases hb : build records with
    | ok t => exact absurd (build_eq_ok_iff.1 hb).2.1 hd
    | error e => exact ⟨e, rfl⟩

/-- **The error about records.** Building fails just when two records share a name or a value. The error
    is about the first position that repeats an earlier one: if its name stands before it, the error
    is about the name, and otherwise about the value. It has the line of the one earlier record with that
    name or value, and the line at that position. -/
theorem build_first_repetition (records : List Record) (hlen : records.length < UInt32.size) :
    ((∃ e, build records = .error e) ↔
      ¬ ((records.map (·.name)).Nodup ∧ (records.map (·.opcode)).Nodup)) ∧
    ∀ e, build records = .error e →
      ∃ j r, records[j]? = some r ∧ RepeatsAt records j ∧ (∀ k < j, ¬ RepeatsAt records k) ∧
        (r.name ∈ (records.take j).map (·.name) →
          ∃ first, (records.take j).filter (·.name = r.name) = [first] ∧
            e = .duplicateName r.name first.line r.line) ∧
        (r.name ∉ (records.take j).map (·.name) →
          ∃ first, (records.take j).filter (·.opcode = r.opcode) = [first] ∧
            e = .duplicateValue r.opcode first.line r.line) := by
  refine ⟨exists_build_error_iff hlen, fun e he => ?_⟩
  obtain ⟨earlier, r, later, rfl, hd, hc⟩ := clash_of_build hlen he
  have hr : (earlier ++ r :: later)[earlier.length]? = some r := by simp
  have htake : (earlier ++ r :: later).take earlier.length = earlier := List.take_left
  refine ⟨earlier.length, r, hr, ?_, fun k hk => hd.not_repeatsAt hk, ?_⟩
  · refine ⟨r, hr, ?_⟩
    rw [htake]
    cases hc with
    | name hfirst hname => exact ⟨_, hfirst, Or.inl hname⟩
    | value _ hfirst hvalue => exact ⟨_, hfirst, Or.inr hvalue⟩
  rw [htake, List.mem_map]
  cases hc with
  | @name first hfirst hname =>
    have hnames := hd.imp fun hne => hne.1
    refine ⟨fun _ => ⟨first, ?_, rfl⟩, fun hnew => absurd ⟨first, hfirst, hname⟩ hnew⟩
    rw [← hname]
    exact filter_key_eq_singleton hnames hfirst
  | @value first hnew hfirst hvalue =>
    have hvalues := hd.imp fun hne => hne.2
    refine ⟨fun ⟨q, hq, hname⟩ => absurd hname (hnew q hq), fun _ => ⟨first, ?_, rfl⟩⟩
    rw [← hvalue]
    exact filter_key_eq_singleton hvalues hfirst

/-- The third record has the name of the first one and the value of the second one. The fourth repeats
    too, and the lines do not ascend. -/
theorem build_first_repetition_both :
    let add : Record := ⟨7, "ADD", ⟨.two, .zero⟩, none, 5⟩
    let sub : Record := ⟨9, "SUB", ⟨.two, .zero⟩, some "", 2⟩
    let both : Record := ⟨9, "ADD", ⟨.one, .sign⟩, none, 3⟩
    let records := [add, sub, both, sub]
    records.length < UInt32.size ∧ build records = .error (.duplicateName "ADD" 5 3) := by
  intro add sub both records
  have hlen : records.length < UInt32.size := by decide
  obtain ⟨hfails, herror⟩ := build_first_repetition records hlen
  obtain ⟨e, he⟩ := hfails.2 (by decide)
  obtain ⟨j, r, hr, hrepeats, hmin, hname, -⟩ := herror e he
  have hle : j ≤ 2 := Nat.le_of_not_lt fun hlt => hmin 2 hlt (by decide)
  have hfirst : ¬ RepeatsAt records 0 ∧ ¬ RepeatsAt records 1 := by decide
  obtain rfl : j = 2 := by
    rcases j with _ | _ | _ | j
    · exact absurd hrepeats hfirst.1
    · exact absurd hrepeats hfirst.2
    · rfl
    · omega
  obtain rfl : both = r := Option.some.inj hr
  obtain ⟨first, hfilter, rfl⟩ := hname (by decide)
  have hadd : (records.take 2).filter (·.name = both.name) = [add] := by decide
  rw [hadd] at hfilter
  obtain rfl : add = first := List.head_eq_of_cons_eq hfilter
  exact ⟨hlen, he⟩

end Table

end IsaTable
