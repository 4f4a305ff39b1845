/-
  The order of rows.

  Building a table and scanning its names for collisions both go from row to row and stop at the first
  fault. Whether there is a fault does not depend on the order, and neither does what is found under a
  name or a value; only ordinals do.

  * `distinct_perm`: records stay distinct in any order.
  * `Table.Represents.map_record_entry?_eq_some_iff`, ..: the record that is found is the one with the name
    or the value, wherever it stands.
  * `Format.exists_render_rust_iff`: a table is rendered just when its identifiers are distinct.
  * `Table.build_perm`: the same rows in another order.
-/
import IsaTable.Proofs.Collisions

namespace IsaTable

variable {rs rs' : List Record}

/-- **Records stay distinct in any order.** -/
theorem distinct_perm (h : rs.Perm rs') : Distinct rs ↔ Distinct rs' :=
  h.pairwise_iff fun hne => ⟨hne.1.symm, hne.2.symm⟩

namespace Table

variable {t t' : Table}

/-! ## Queries -/

/-- The record that an index leads to is the one with the key, wherever it stands. -/
theorem Represents.map_record_bind_eq_some_iff {κ : Type} {key : Record → κ} {k : κ} {i? : Option Nat}
    (h : t.Represents rs) (hi : ∀ i, i? = some i ↔ ∃ r, rs[i]? = some r ∧ key r = k) {r : Record} :
    (i?.bind (t.entries[·]?)).map (·.record) = some r ↔ r ∈ rs ∧ key r = k := by
  rw [Option.map_eq_some_iff]
  simp only [h.bind_getElem?_eq_some_iff hi]
  constructor
  · rintro ⟨_, ⟨i, q, hq, hk, rfl⟩, rfl⟩
    exact ⟨List.mem_of_getElem? hq, hk⟩
  · rintro ⟨hr, hk⟩
    obtain ⟨i, hri⟩ := List.getElem?_of_mem hr
    exact ⟨_, ⟨i, r, hri, hk, rfl⟩, rfl⟩

theorem Represents.map_record_entry?_eq_some_iff (h : t.Represents rs) {name : String} {r : Record} :
    (t.entry? name).map (·.record) = some r ↔ r ∈ rs ∧ r.name = name :=
  h.map_record_bind_eq_some_iff (h.byName name)

theorem Represents.map_record_entryOfValue?_eq_some_iff (h : t.Represents rs) {value : Opcode}
    {r : Record} : (t.entryOfValue? value).map (·.record) = some r ↔ r ∈ rs ∧ r.opcode = value :=
  h.map_record_bind_eq_some_iff (h.byValue value)

section
variable (h : t.Represents rs) (h' : t'.Represents rs') (hperm : rs.Perm rs')
include h h' hperm

theorem Represents.map_record_entry?_perm (name : String) :
    (t.entry? name).map (·.record) = (t'.entry? name).map (·.record) := by
  ext r
  rw [h.map_record_entry?_eq_some_iff, h'.map_record_entry?_eq_some_iff, hperm.mem_iff]

theorem Represents.map_record_entryOfValue?_perm (value : Opcode) :
    (t.entryOfValue? value).map (·.record) = (t'.entryOfValue? value).map (·.record) := by
  ext r
  rw [h.map_record_entryOfValue?_eq_some_iff, h'.map_record_entryOfValue?_eq_some_iff, hperm.mem_iff]

theorem Represents.names_perm : t.names.Perm t'.names := by
  have hrecords : (t.toList.map (·.record)).Perm (t'.toList.map (·.record)) := by
    rwa [h.map_record_toList, h'.map_record_toList]
  have hnames := hrecords.map (·.name)
  rw [List.map_map, List.map_map] at hnames
  exact hnames

end

end Table

/-! ## Renderings -/

namespace Format

variable {style : DispatchStyle} {t t' : Table}

/-- **A table is rendered just when its identifiers are distinct.** -/
theorem exists_render_rust_iff :
    (∃ text, (Format.rust style).render t = .ok text) ↔ (t.names.map Variant.ident).Nodup := by
  have herror : (∃ e, (Format.rust style).render t = .error e) ↔ _ := exists_render_rust_error_iff
  cases hrender : (Format.rust style).render t with
  | error e =>
    rw [hrender] at herror
    refine iff_of_false ?_ (herror.1 ⟨e, rfl⟩)
    rintro ⟨text, htext⟩
    cases htext
  | ok text =>
    rw [hrender] at herror
    refine iff_of_true ⟨text, rfl⟩ ?_
    by_contra hnd
    obtain ⟨e, he⟩ := herror.2 hnd
    cases he

theorem exists_render_rust_perm (h : t.names.Perm t'.names) :
    (∃ text, (Format.rust style).render t = .ok text) ↔
      ∃ text, (Format.rust style).render t' = .ok text := by
  rw [exists_render_rust_iff, exists_render_rust_iff]
  exact (h.map Variant.ident).nodup_iff

end Format

/-! ## The same rows in another order -/

namespace Table

/-- **The order of rows matters for ordinals only.** Records in another order have a table just when they
    have one. Both tables are of one size, have the same record under each name and under each value, and
    decode alike; and either both or neither can be rendered as Rust source. -/
theorem build_perm (h : rs.Perm rs') :
    match build rs, build rs' with
    | .ok t, .ok t' =>
      (∀ name, t.shape? name = t'.shape? name ∧
        (t.entry? name).map (·.record) = (t'.entry? name).map (·.record)) ∧
      (∀ value, t.shapeOfValue? value = t'.shapeOfValue? value ∧
        (t.entryOfValue? value).map (·.record) = (t'.entryOfValue? value).map (·.record)) ∧
      t.size = t'.size ∧
      ∀ style, (∃ text, (Format.rust style).render t = .ok text) ↔
        ∃ text, (Format.rust style).render t' = .ok text
    | .error _, .error _ => True
    | _, _ => False := by
  have hexists : (∃ t, build rs = .ok t) ↔ ∃ t, build rs' = .ok t := by
    rw [exists_build_iff, exists_build_iff, h.length_eq, distinct_perm h]
  cases hb : build rs with
  | error e =>
    cases hb' : build rs' with
    | error e' => trivial
    | ok t' =>
      obtain ⟨t, ht⟩ := hexists.2 ⟨t', hb'⟩
      rw [hb] at ht
      cases ht
  | ok t =>
    cases hb' : build rs' with
    | error e' =>
      obtain ⟨t', ht'⟩ := hexists.1 ⟨t, hb⟩
      rw [hb'] at ht'
      cases ht'
    | ok t' =>
      obtain ⟨ht, -⟩ := represents_of_build hb
      obtain ⟨ht', -⟩ := represents_of_build hb'
      have hname := ht.map_record_entry?_perm ht' h
      have hvalue := ht.map_record_entryOfValue?_perm ht' h
      refine ⟨fun name => ⟨?_, hname name⟩, fun value => ⟨?_, hvalue value⟩, ?_, fun style => ?_⟩
      · have hshape := congrArg (Option.map (·.shape)) (hname name)
        rw [Option.map_map, Option.map_map] at hshape
        exact hshape
      · have hshape := congrArg (Option.map fun r => (r.name, r.shape)) (hvalue value)
        rw [Option.map_map, Option.map_map] at hshape
        exact hshape
      · rw [ht.size_eq, ht'.size_eq, h.length_eq]
      · exact Format.exists_render_rust_perm (ht.names_perm ht' h)

/-- Three opcodes and the same from the last to the first; two of them collide as variants. -/
theorem build_perm_reverse :
    let rs : List Record := [⟨7, "self", ⟨.two, .zero⟩, none, 1⟩, ⟨1, "B", ⟨.one, .sign⟩, some "b", 2⟩,
      ⟨0, "self_", ⟨.zero, .zero⟩, none, 4⟩]
    let t := rs.foldl push empty
    let t' := rs.reverse.foldl push empty
    rs.Perm rs.reverse ∧ build rs = .ok t ∧ build rs.reverse = .ok t' ∧
      t.shapeOfValue? 7 = t'.shapeOfValue? 7 ∧
      (t.entry? "self").map (·.record) = (t'.entry? "self").map (·.record) ∧
      ¬ ∃ text, (Format.rust {}).render t' = .ok text := by
  intro rs t t'
  have hperm : rs.Perm rs.reverse := (List.reverse_perm rs).symm
  have hb : build rs = .ok t := build_eq_ok_iff.2 ⟨by decide, by decide, rfl⟩
  have hb' : build rs.reverse = .ok t' := build_eq_ok_iff.2 ⟨by decide, by decide, rfl⟩
  have hboth := build_perm hperm
  rw [hb, hb'] at hboth
  obtain ⟨hname, hvalue, -, hrust⟩ := hboth
  have hcollide : ¬ ∃ text, (Format.rust {}).render t = .ok text :=
    mt Format.exists_render_rust_iff.1 (by decide)
  exact ⟨hperm, hb, hb', (hvalue 7).1, (hname "self").2, mt (hrust {}).2 hcollide⟩

end Table

end IsaTable
