/-
  Notes and line numbers as labels.

  The note and the line of a record are carried along, but nothing is decided by them. So a table that is
  built from records with other labels is the same table with other labels, and an error about them is the
  same error about other lines. What a table answers about decoding does not see the labels.

  * `Record.relabel`, `Table.relabel`, `BuildError.renumber`: other labels.
  * `Table.add_relabel`, `Table.build_relabel`: building commutes with relabelling.
  * `Table.shape?_relabel`, .., `Format.pieces_rust_relabel`, ..: queries and renderings do not see them.
  * `Record.SameDecoding`, `BuildError.SameFault`: what is the same but for labels.
  * `Table.build_sameDecoding`: records that are the same but for labels have tables that decode alike.
-/
import IsaTable.Proofs.Dumps
import Mathlib.Data.List.Forall2

namespace IsaTable

/-! ## Other labels -/

section
variable (note : Option String → Option String) (line : Nat → Nat)

/-- A record with another note and another line. -/
def Record.relabel (r : Record) : Record :=
  { r with note := note r.note, line := line r.line }

/-- An entry whose record has other labels. -/
def Entry.relabel (e : Entry) : Entry :=
  { e with record := e.record.relabel note line }

/-- A table whose records have other labels. -/
def Table.relabel (t : Table) : Table :=
  { t with entries := t.entries.map (Entry.relabel note line) }

/-- An error about other lines. -/
def BuildError.renumber : BuildError → BuildError
  | duplicateName name first second => duplicateName name (line first) (line second)
  | duplicateValue value first second => duplicateValue value (line first) (line second)
  | tooMany count => tooMany count

namespace Table

variable (t : Table)

@[simp] theorem size_relabel : (t.relabel note line).size = t.size := by
  simp [size, relabel]

@[simp] theorem toList_relabel :
    (t.relabel note line).toList = t.toList.map (Entry.relabel note line) := by
  simp [toList, relabel]

/-! ## Building -/

theorem entry?_relabel (name : String) :
    entry? (t.relabel note line) name = (t.entry? name).map (Entry.relabel note line) := by
  simp only [relabel, entry?, Array.getElem?_map, Option.map_bind]
  rfl

theorem entryOfValue?_relabel (value : Opcode) :
    (t.relabel note line).entryOfValue? value =
      (t.entryOfValue? value).map (Entry.relabel note line) := by
  simp only [entryOfValue?, relabel, Array.getElem?_map, Option.map_bind]
  rfl

theorem push_relabel (r : Record) :
    (t.relabel note line).push (r.relabel note line) = (t.push r).relabel note line := by
  simp only [push, size_relabel]
  simp only [relabel, Array.map_push]
  rfl

/-- **One more record** with other labels. Only an error passes the line on. -/
theorem add_relabel (r : Record) :
    (t.relabel note line).add (r.relabel note line) =
      ((t.add r).map (relabel note line)).mapError (BuildError.renumber line) := by
  have hname : (r.relabel note line).name = r.name := rfl
  have hopcode : (r.relabel note line).opcode = r.opcode := rfl
  simp only [add, hname, hopcode, entry?_relabel, entryOfValue?_relabel, push_relabel]
  cases t.entry? r.name with
  | some first => rfl
  | none => cases t.entryOfValue? r.opcode <;> rfl

theorem foldlM_add_relabel (records : List Record) :
    (records.map (Record.relabel note line)).foldlM add (t.relabel note line) =
      ((records.foldlM add t).map (relabel note line)).mapError (BuildError.renumber line) := by
  induction records generalizing t with
  | nil => rfl
  | cons r records ih =>
    rw [List.map_cons, List.foldlM_cons, List.foldlM_cons, add_relabel]
    cases t.add r with
    | error e => rfl
    | ok t' => exact ih t'

/-- **Building commutes with relabelling.** -/
theorem build_relabel (records : List Record) :
    build (records.map (Record.relabel note line)) =
      ((build records).map (relabel note line)).mapError (BuildError.renumber line) := by
  have hempty : empty.relabel note line = empty := by simp [relabel, empty]
  rw [build, build, List.length_map]
  split
  · rw [← foldlM_add_relabel, hempty]
  · rfl

/-! ## Queries and renderings -/

theorem shape?_relabel (name : String) : (t.relabel note line).shape? name = t.shape? name := by
  rw [shape?, entry?_relabel, Option.map_map]
  rfl

theorem shapeOfValue?_relabel (value : Opcode) :
    (t.relabel note line).shapeOfValue? value = t.shapeOfValue? value := by
  rw [shapeOfValue?, entryOfValue?_relabel, Option.map_map]
  rfl

theorem ordinal?_relabel (name : String) : (t.relabel note line).ordinal? name = t.ordinal? name := by
  rw [ordinal?, entry?_relabel, Option.map_map]
  rfl

@[simp] theorem names_relabel : (t.relabel note line).names = t.names := by
  rw [names, toList_relabel, List.map_map]
  rfl

end Table

namespace Format

variable (t : Table)

theorem pieces_rust_relabel (style : DispatchStyle) :
    (Format.rust style).pieces (t.relabel note line) = (Format.rust style).pieces t := by
  simp only [pieces, Dispatch.ofTable, Table.names_relabel, Table.toList_relabel, Table.size_relabel,
    List.zip_map_right, List.map_map]
  rfl

theorem pieces_onikiri_relabel (perLine : Nat) :
    (Format.onikiri perLine).pieces (t.relabel note line) = (Format.onikiri perLine).pieces t := by
  simp only [pieces, CodeList.pieces, Table.toList_relabel, List.zipIdx_map, List.map_map]
  rfl

/-- No format sees the lines. -/
theorem pieces_relabel_id (f : Format) : f.pieces (t.relabel id line) = f.pieces t := by
  cases f with
  | rust style => exact pieces_rust_relabel id line t style
  | onikiri perLine => exact pieces_onikiri_relabel id line t perLine
  | json =>
    simp only [pieces, Table.dump, Table.toJson, Table.toList_relabel, List.map_map]
    rfl

end Format

end

theorem Format.render_congr {f : Format} {t t' : Table} (h : f.pieces t = f.pieces t') :
    f.render t = f.render t' := by
  rw [render, render, renderInto_eq, renderInto_eq, h]

/-! ## Two runs -/

/-- Records that say the same of decoding. Their notes and lines may differ. -/
def Record.SameDecoding (q r : Record) : Prop :=
  q.opcode = r.opcode ∧ q.name = r.name ∧ q.shape = r.shape

/-- Errors of one kind, about one name or one value. Their lines may differ. -/
inductive BuildError.SameFault : BuildError → BuildError → Prop
  | duplicateName {name first second first' second'} :
    SameFault (.duplicateName name first second) (.duplicateName name first' second')
  | duplicateValue {value first second first' second'} :
    SameFault (.duplicateValue value first second) (.duplicateValue value first' second')
  | tooMany {count} : SameFault (.tooMany count) (.tooMany count)

theorem BuildError.sameFault_of_renumber_eq {line : Nat → Nat} {e e' : BuildError}
    (h : e.renumber line = e'.renumber line) : e.SameFault e' := by
  cases e <;> cases e' <;> try cases h
  · obtain ⟨rfl, -⟩ := BuildError.duplicateName.inj h
    exact .duplicateName
  · obtain ⟨rfl, -⟩ := BuildError.duplicateValue.inj h
    exact .duplicateValue
  · exact .tooMany

section
variable {rs rs' : List Record}

/-- Records that say the same of decoding are the same once their labels are. -/
theorem map_relabel_eq (note : Option String → Option String)
    (h : List.Forall₂ Record.SameDecoding rs rs')
    (hnotes : rs.map (fun r => note r.note) = rs'.map fun r => note r.note) :
    rs.map (Record.relabel note fun _ => 0) = rs'.map (Record.relabel note fun _ => 0) := by
  induction h with
  | nil => rfl
  | @cons r r' rs rs' hr _ ih =>
    obtain ⟨hnote, hnotes⟩ : note r.note = note r'.note ∧ _ := List.cons.inj hnotes
    obtain ⟨hopcode, hname, hshape⟩ := hr
    rw [List.map_cons, List.map_cons, ih hnotes, Record.relabel, Record.relabel, hopcode, hname, hshape,
      hnote]

namespace Table

variable {t t' : Table} {note : Option String → Option String} {line : Nat → Nat}

/-- Tables of records that are the same once relabelled are the same once relabelled. -/
theorem relabel_eq_of_build (hb : build rs = .ok t) (hb' : build rs' = .ok t')
    (h : rs.map (Record.relabel note line) = rs'.map (Record.relabel note line)) :
    t.relabel note line = t'.relabel note line := by
  have hbuild := congrArg build h
  rw [build_relabel, build_relabel, hb, hb'] at hbuild
  exact Except.ok.inj hbuild

/-- The dump of a table tells its notes. -/
theorem map_note_eq_of_dump_eq (h : t.dump = t'.dump) :
    t.toList.map (·.record.note) = t'.toList.map (·.record.note) := by
  have hjson : t.toJson = t'.toJson := by
    have hread := congrArg Json.ofText? h
    rw [ofText?_dump, ofText?_dump] at hread
    exact Option.some.inj hread
  have hitems : t.toList.map Entry.toJson = t'.toList.map Entry.toJson := Json.array.inj hjson
  rw [← List.forall₂_eq_eq_eq, List.forall₂_map_left_iff, List.forall₂_map_right_iff] at hitems ⊢
  refine hitems.imp fun e e' he => ?_
  simp only [Entry.toJson, Json.object.injEq, List.cons.injEq, Prod.mk.injEq] at he
  revert he
  cases e.record.note <;> cases e'.record.note <;> simp

/-- Tables that are the same once relabelled answer alike about decoding. -/
theorem decoding_eq_of_relabel_eq (h : t.relabel note line = t'.relabel note line) :
    (∀ name, t.shape? name = t'.shape? name ∧ t.ordinal? name = t'.ordinal? name) ∧
      (∀ value, t.shapeOfValue? value = t'.shapeOfValue? value) ∧ t.names = t'.names := by
  refine ⟨fun name => ⟨?_, ?_⟩, fun value => ?_, ?_⟩
  · rw [← t.shape?_relabel note line, h, shape?_relabel]
  · rw [← t.ordinal?_relabel note line, h, ordinal?_relabel]
  · rw [← t.shapeOfValue?_relabel note line, h, shapeOfValue?_relabel]
  · rw [← t.names_relabel note line, h, names_relabel]

/-- Of tables whose records say the same of decoding, the dumps are the same just when the notes are. -/
theorem render_json_eq_iff (hb : build rs = .ok t) (hb' : build rs' = .ok t')
    (h : List.Forall₂ Record.SameDecoding rs rs') :
    Format.json.render t = Format.json.render t' ↔ rs.map (·.note) = rs'.map (·.note) := by
  constructor
  · intro hrender
    rw [Format.render_json, Format.render_json] at hrender
    have hnotes := map_note_eq_of_dump_eq (Except.ok.inj hrender)
    rw [← (represents_of_build hb).1.map_record_toList, ← (represents_of_build hb').1.map_record_toList,
      List.map_map, List.map_map]
    exact hnotes
  · intro hnotes
    have hrelabel := relabel_eq_of_build hb hb' (map_relabel_eq id h hnotes)
    apply Format.render_congr
    rw [← Format.pieces_relabel_id (fun _ => 0) t, hrelabel, Format.pieces_relabel_id]

/-- **Notes and lines do not influence decoding.** Records that agree but for these have tables both or
    neither. The errors are of one kind and about one name or value; the tables answer alike, and they are
    rendered alike as Rust source and as code lists. Only the dumps tell the notes. -/
theorem build_sameDecoding (h : List.Forall₂ Record.SameDecoding rs rs') :
    match build rs, build rs' with
    | .ok t, .ok t' =>
      ((∀ name, t.shape? name = t'.shape? name ∧ t.ordinal? name = t'.ordinal? name) ∧
        (∀ value, t.shapeOfValue? value = t'.shapeOfValue? value) ∧ t.names = t'.names) ∧
      (∀ style, (Format.rust style).render t = (Format.rust style).render t') ∧
      (∀ perLine, (Format.onikiri perLine).render t = (Format.onikiri perLine).render t') ∧
      (Format.json.render t = Format.json.render t' ↔ rs.map (·.note) = rs'.map (·.note))
    | .error e, .error e' => e.SameFault e'
    | _, _ => False := by
  have hbare := map_relabel_eq (fun _ => none) h (by simp [h.length_eq])
  have hbuild := congrArg build hbare
  rw [build_relabel, build_relabel] at hbuild
  cases hb : build rs with
  | error e =>
    cases hb' : build rs' with
    | error e' =>
      rw [hb, hb'] at hbuild
      exact BuildError.sameFault_of_renumber_eq (Except.error.inj hbuild)
    | ok t' =>
      rw [hb, hb'] at hbuild
      cases hbuild
  | ok t =>
    cases hb' : build rs' with
    | error e' =>
      rw [hb, hb'] at hbuild
      cases hbuild
    | ok t' =>
      have hrelabel := relabel_eq_of_build hb hb' hbare
      refine ⟨decoding_eq_of_relabel_eq hrelabel, fun style => ?_, fun perLine => ?_,
        render_json_eq_iff hb hb' h⟩
      · apply Format.render_congr
        rw [← Format.pieces_rust_relabel _ _ t, hrelabel, Format.pieces_rust_relabel]
      · apply Format.render_congr
        rw [← Format.pieces_onikiri_relabel _ _ t, hrelabel, Format.pieces_onikiri_relabel]

/-- Two rows with other notes on other lines, and a third one that repeats a value. -/
theorem build_sameDecoding_notes :
    let rs : List Record := [⟨0, "self", ⟨.two, .zero⟩, none, 1⟩, ⟨1, "B", ⟨.one, .sign⟩, some "b", 2⟩]
    let rs' : List Record := [⟨0, "self", ⟨.two, .zero⟩, some "", 9⟩, ⟨1, "B", ⟨.one, .sign⟩, none, 4⟩]
    let t := rs.foldl push empty
    let t' := rs'.foldl push empty
    let third : Record := ⟨0, "C", ⟨.zero, .zero⟩, none, 3⟩
    List.Forall₂ Record.SameDecoding rs rs' ∧ build rs = .ok t ∧ build rs' = .ok t' ∧
      (∀ style, (Format.rust style).render t = (Format.rust style).render t') ∧
      Format.json.render t ≠ Format.json.render t' ∧
      ∃ e e', build (rs ++ [third]) = .error e ∧ build (rs' ++ [third]) = .error e' ∧ e.SameFault e' := by
  intro rs rs' t t' third
  have h : List.Forall₂ Record.SameDecoding rs rs' :=
    .cons ⟨rfl, rfl, rfl⟩ (.cons ⟨rfl, rfl, rfl⟩ .nil)
  have hthird : List.Forall₂ Record.SameDecoding (rs ++ [third]) (rs' ++ [third]) :=
    .cons ⟨rfl, rfl, rfl⟩ (.cons ⟨rfl, rfl, rfl⟩ (.cons ⟨rfl, rfl, rfl⟩ .nil))
  have hb : build rs = .ok t := build_eq_ok_iff.2 ⟨by decide, by decide, rfl⟩
  have hb' : build rs' = .ok t' := build_eq_ok_iff.2 ⟨by decide, by decide, rfl⟩
  have hboth := build_sameDecoding h
  rw [hb, hb'] at hboth
  obtain ⟨-, hrust, -, hjson⟩ := hboth
  refine ⟨h, hb, hb', hrust, fun hsame => absurd (hjson.1 hsame) (by decide), ?_⟩
  have hfault := build_sameDecoding hthird
  cases he : build (rs ++ [third]) with
  | ok t => exact absurd (build_eq_ok_iff.1 he).2.1 (by decide)
  | error e =>
    cases he' : build (rs' ++ [third]) with
    | ok t' => exact absurd (build_eq_ok_iff.1 he').2.1 (by decide)
    | error e' =>
      rw [he, he'] at hfault
      exact ⟨e, e', rfl, rfl, hfault⟩

end Table

end

end IsaTable
