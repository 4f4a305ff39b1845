/-
  When variant identifiers collide.

  Two names get one identifier only if one of them is a word that has to be escaped and the other one
  is its escaped form. So the names of a table collide just when such a pair is among them, and then
  the rendering reports the first name whose identifier is taken.

  * `Variant.Escaped`: a word that is no identifier, and what is written for it.
  * `Variant.ident_eq_ident_iff`, `Variant.nodup_map_ident_iff`: which names share an identifier.
  * `Variant.IsIdentifier`: the texts that can stand for a variant.
  * `Collision.FirstAmong`, `Variant.firstAmong_of_idents`: the scan over the names stops at the first
    one whose identifier is taken.
  * `Dispatch.linesUnder`, `Dispatch.lines_ofEntries`: the lines of a module, and where the identifiers
    stand in them.
  * `Format.render_outcome`: which tables can be rendered, what is reported about the others, and which
    identifiers are written.
-/
import IsaTable.Proofs.Meaning
import Mathlib.Data.List.Nodup

namespace IsaTable

namespace Variant

/-! ## Escaped words -/

/-- The words that are no identifiers as they stand. -/
def words : List String :=
  reserved ++ keywords

/-- A word that is no identifier, and its escaped form. -/
inductive Escaped (word : String) : String → Prop
  | underscore : word ∈ reserved → Escaped word (word ++ "_")
  | raw : word ∈ keywords → Escaped word ("r#" ++ word)

theorem notMem_keywords_of_mem_reserved : ∀ word ∈ reserved, word ∉ keywords := by
  decide

/-- The mark of raw identifiers occurs in no word. -/
theorem mark_notMem : ∀ word ∈ words, '#' ∉ word.toList := by
  decide

/-- No word ends in an underscore behind another character. -/
theorem getLast?_ne_underscore :
    ∀ word ∈ words, word.length = 1 ∨ word.toList.getLast? ≠ some '_' := by
  decide

theorem length_pos_of_mem_reserved : ∀ word ∈ reserved, 0 < word.length := by
  decide

section
variable {a b x : String}

theorem Escaped.mem_words (h : Escaped a x) : a ∈ words := by
  cases h with
  | underscore ha => exact List.mem_append_left _ ha
  | raw ha => exact List.mem_append_right _ ha

/-- The escaped form of a word need not be escaped again. -/
theorem Escaped.notMem_words (h : Escaped a x) : x ∉ words := by
  intro hx
  cases h with
  | underscore ha =>
    rcases getLast?_ne_underscore _ hx with hlength | hlast
    · have hpos := length_pos_of_mem_reserved a ha
      have hone : "_".length = 1 := rfl
      rw [String.length_append, hone] at hlength
      omega
    · exact hlast (by rw [String.toList_append]; simp)
  | raw ha => exact mark_notMem _ hx (by rw [String.toList_append]; simp)

theorem Escaped.ne (h : Escaped a x) : a ≠ x := by
  rintro rfl
  exact h.notMem_words h.mem_words

theorem append_underscore_ne (ha : a ∈ reserved) : a ++ "_" ≠ "r#" ++ b := by
  intro h
  have hmark : '#' ∈ (a ++ "_").toList := by rw [h, String.toList_append]; simp
  rw [String.toList_append] at hmark
  rcases List.mem_append.1 hmark with hm | hm
  · exact mark_notMem a (List.mem_append_left _ ha) hm
  · exact absurd hm (by decide)

/-- A text is the escaped form of one word at most. -/
theorem Escaped.word_unique (ha : Escaped a x) (hb : Escaped b x) : a = b := by
  cases ha with
  | underscore ha =>
    generalize hx : a ++ "_" = x at hb
    cases hb with
    | underscore hb => exact (String.append_left_inj "_").1 hx
    | raw hb => exact absurd hx (append_underscore_ne ha)
  | raw ha =>
    generalize hx : "r#" ++ a = x at hb
    cases hb with
    | underscore hb => exact absurd hx.symm (append_underscore_ne hb)
    | raw hb => exact (String.append_right_inj "r#").1 hx

/-! ## Identifiers of names -/

theorem Escaped.ident_eq (h : Escaped a x) : ident a = x := by
  cases h with
  | underscore ha => rw [ident, if_pos ha]
  | raw ha =>
    have hr : a ∉ reserved := fun hr => notMem_keywords_of_mem_reserved a hr ha
    rw [ident, if_neg hr, if_pos ha]

theorem ident_of_notMem_words (h : a ∉ words) : ident a = a := by
  obtain ⟨hr, hk⟩ := not_or.1 (mt List.mem_append.2 h)
  rw [ident, if_neg hr, if_neg hk]

/-- A name is escaped, or it is an identifier itself. -/
theorem escaped_ident_or (name : String) :
    Escaped name (ident name) ∨ name ∉ words ∧ ident name = name := by
  by_cases hr : name ∈ reserved
  · have h := Escaped.underscore hr
    rw [← h.ident_eq] at h
    exact Or.inl h
  by_cases hk : name ∈ keywords
  · have h := Escaped.raw hk
    rw [← h.ident_eq] at h
    exact Or.inl h
  have hw : name ∉ words := fun h => (List.mem_append.1 h).elim hr hk
  exact Or.inr ⟨hw, ident_of_notMem_words hw⟩

/-- **Which names share an identifier:** a word and its escaped form, and no others. -/
theorem ident_eq_ident_iff : ident a = ident b ↔ a = b ∨ Escaped a b ∨ Escaped b a := by
  constructor
  · intro h
    rcases escaped_ident_or a with ha | ⟨-, ha⟩
    · rcases escaped_ident_or b with hb | ⟨-, hb⟩
      · rw [h] at ha
        exact Or.inl (ha.word_unique hb)
      · rw [h, hb] at ha
        exact Or.inr (Or.inl ha)
    · rcases escaped_ident_or b with hb | ⟨-, hb⟩
      · rw [← h, ha] at hb
        exact Or.inr (Or.inr hb)
      · rw [ha, hb] at h
        exact Or.inl h
  · rintro (rfl | h | h)
    · rfl
    · rw [h.ident_eq, ident_of_notMem_words h.notMem_words]
    · rw [h.ident_eq, ident_of_notMem_words h.notMem_words]

/-- Distinct names have distinct identifiers just when no word stands beside its escaped form. -/
theorem nodup_map_ident_iff {names : List String} (h : names.Nodup) :
    (names.map ident).Nodup ↔ ∀ a ∈ names, ∀ b ∈ names, ¬ Escaped a b := by
  rw [List.nodup_map_iff_inj_on h]
  constructor
  · intro hinj a ha b hb hab
    exact hab.ne (hinj a ha b hb (ident_eq_ident_iff.2 (Or.inr (Or.inl hab))))
  · intro hno a ha b hb hab
    rcases ident_eq_ident_iff.1 hab with rfl | hab | hba
    · rfl
    · exact absurd hab (hno a ha b hb)
    · exact absurd hba (hno b hb a ha)

/-- The texts that can stand for a variant: names that are no words, and raw keywords. -/
def IsIdentifier (id : String) : Prop :=
  isName id = true ∧ id ∉ reserved ∧ id ∉ keywords ∨ ∃ k ∈ keywords, id = "r#" ++ k

theorem isIdentifier_of_notMem_words (h : isName a = true) (hw : a ∉ words) : IsIdentifier a := by
  obtain ⟨hr, hk⟩ := not_or.1 (mt List.mem_append.2 hw)
  exact Or.inl ⟨h, hr, hk⟩

theorem isIdentifier_ident (h : isName a = true) : IsIdentifier (ident a) := by
  rcases escaped_ident_or a with ha | ⟨hw, ha⟩
  · generalize ident a = id at ha
    cases ha with
    | underscore hr =>
      have hname : ∀ word ∈ reserved, isName (word ++ "_") = true := by decide
      exact isIdentifier_of_notMem_words (hname a hr) (Escaped.underscore hr).notMem_words
    | raw hk => exact Or.inr ⟨a, hk, rfl⟩
  · rw [ha]
    exact isIdentifier_of_notMem_words h hw

end

end Variant

/-! ## The first collision -/

/-- Among some names, the second one of a collision is the first whose identifier is that of a name
    before it, and the first one is that name. -/
def Collision.FirstAmong (c : Collision) (names : List String) : Prop :=
  ∃ earlier later, names = earlier ++ c.second :: later ∧ (earlier.map Variant.ident).Nodup ∧
    c.first ∈ earlier ∧ Variant.ident c.first = c.ident ∧ Variant.ident c.second = c.ident

namespace Variant

/-- The identifiers seen so far are those of the earlier names, which are distinct, and lead to
    these names. -/
structure Seen (seen : Std.HashMap String String) (earlier : List String) : Prop where
  nodup : (earlier.map ident).Nodup
  getElem? : ∀ id name, seen[id]? = some name ↔ name ∈ earlier ∧ ident name = id

theorem seen_empty : Seen ∅ [] :=
  ⟨List.nodup_nil, by simp⟩

section
variable {seen : Std.HashMap String String} {earlier : List String} {name : String}

theorem Seen.ne_of_getElem? (h : Seen seen earlier) (hnew : seen[ident name]? = none) :
    ∀ a ∈ earlier, ident a ≠ ident name := by
  intro a ha hident
  rw [(h.getElem? (ident name) a).2 ⟨ha, hident⟩] at hnew
  cases hnew

/-- One more name, whose identifier is new. -/
theorem Seen.insert (h : Seen seen earlier) (hnew : seen[ident name]? = none) :
    Seen (seen.insert (ident name) name) (earlier ++ [name]) where
  nodup := by
    rw [List.map_append, List.map_singleton, ← List.concat_eq_append, List.nodup_concat]
    refine ⟨fun hm => ?_, h.nodup⟩
    obtain ⟨a, ha, hident⟩ := List.mem_map.1 hm
    exact h.ne_of_getElem? hnew a ha hident
  getElem? id other := by
    rw [Std.HashMap.getElem?_insert, List.mem_append, List.mem_singleton]
    by_cases hid : ident name = id
    · subst hid
      simp only [beq_self_eq_true, if_true, Option.some.injEq]
      constructor
      · rintro rfl
        exact ⟨Or.inr rfl, rfl⟩
      · rintro ⟨hother | hother, hident⟩
        · exact absurd hident (h.ne_of_getElem? hnew other hother)
        · exact hother.symm
    · rw [if_neg (by simpa using hid), h.getElem?]
      constructor
      · rintro ⟨hother, hident⟩
        exact ⟨Or.inl hother, hident⟩
      · rintro ⟨hother | rfl, hident⟩
        · exact ⟨hother, hident⟩
        · exact absurd hident hid

/-- A scan that fails has met the first collision, counted from the names that it began behind. -/
theorem Seen.firstAmong_of_identsFrom {names : List String} {c : Collision} (h : Seen seen earlier)
    (he : identsFrom seen names = .error c) : c.FirstAmong (earlier ++ names) := by
  induction names generalizing seen earlier with
  | nil => cases he
  | cons name names ih =>
    rw [identsFrom] at he
    cases hseen : seen[ident name]? with
    | some first =>
      rw [hseen] at he
      cases he
      obtain ⟨hfirst, hident⟩ := (h.getElem? (ident name) first).1 hseen
      exact ⟨earlier, names, rfl, h.nodup, hfirst, hident, rfl⟩
    | none =>
      rw [hseen] at he
      cases hrest : identsFrom (seen.insert (ident name) name) names with
      | ok ids =>
        rw [hrest] at he
        cases he
      | error c' =>
        rw [hrest] at he
        cases he
        have hfirst := ih (h.insert hseen) hrest
        rwa [List.append_assoc, List.singleton_append] at hfirst

end

/-- **The scan over the names reports the first collision.** -/
theorem firstAmong_of_idents {names : List String} {c : Collision} (h : idents names = .error c) :
    c.FirstAmong names :=
  seen_empty.firstAmong_of_identsFrom h

end Variant

/-! ## Emitted identifiers -/

namespace Dispatch

/-- The lines of a module whose variants have these identifiers, written out with the identifier wherever
    one stands. -/
def linesUnder (style : DispatchStyle) (ids : List String) (es : List Entry) : List String :=
  let rows := ids.zip es
  let path (id : String) := style.enumName ++ "::" ++ id
  preamble ++ representation es.length ++
  ["pub enum " ++ style.enumName ++ " \x7b"] ++
  (rows.map fun (id, e) => "    " ++ id ++ " = " ++ Text.decimal e.ordinal.toNat ++ ",") ++
  enumEnd style.enumName ++
  ["    pub const COUNT: usize = " ++ Text.decimal es.length ++ ";",
   "",
   "    pub const ALL: [" ++ style.enumName ++ "; " ++ Text.decimal es.length ++ "] = [" ++
     String.intercalate ", " (ids.map path) ++ "];"] ++
  shapesStart ++
  (rows.map fun (id, e) => "            " ++ path id ++ " => (RegisterArity::" ++
    e.record.shape.arity.name ++ ", SignExtension::" ++ e.record.shape.extension.name ++ "),") ++
  valuesStart ++
  (rows.map fun (id, e) => "            " ++ e.record.opcode.hex ++ " => Some(" ++ path id ++ "),") ++
  labelsStart style.enumName ++
  (rows.map fun (id, e) => "            " ++ path id ++ " => " ++
    literal (style.label ++ e.record.name) ++ ",") ++
  ending

/-- The lines of a module have the identifiers of the entries, and no others. -/
theorem lines_ofEntries (style : DispatchStyle) (es : List Entry) :
    (ofEntries style es).lines = linesUnder style (es.map Entry.variant) es := by
  simp only [lines, allLine, ofEntries, linesUnder, zip_map_variant, List.map_map]
  rfl

theorem join_pieces_ofEntries (style : DispatchStyle) (es : List Entry) :
    String.join (ofEntries style es).pieces =
      String.join ((linesUnder style (es.map Entry.variant) es).map (· ++ "\n")) := by
  rw [pieces, lines_ofEntries]

end Dispatch

/-! ## Rendering -/

theorem Table.Represents.nodup_names {t : Table} {records : List Record} (h : t.Represents records) :
    t.names.Nodup := by
  have hd := h.distinct
  rw [← h.map_record_toList] at hd
  exact List.pairwise_map.2 ((List.pairwise_map.1 hd).imp fun hne => hne.1)

namespace Format

variable {style : DispatchStyle} {t : Table}

theorem pieces_rust_of_idents {c : Collision} (h : Variant.idents t.names = .error c) :
    (Format.rust style).pieces t = .error c := by
  rw [pieces, Dispatch.ofTable, h]
  rfl

/-- A table is not rendered just when two names have one identifier. -/
theorem exists_render_rust_error_iff :
    (∃ e, (Format.rust style).render t = .error e) ↔ ¬ (t.names.map Variant.ident).Nodup := by
  cases h : Variant.idents t.names with
  | error c =>
    refine iff_of_true ⟨_, render_of_collision (pieces_rust_of_idents h)⟩ fun hnd => ?_
    rw [Variant.idents_eq_ok_iff.2 ⟨rfl, hnd⟩] at h
    cases h
  | ok ids =>
    obtain ⟨rfl, hnd⟩ := Variant.idents_eq_ok_iff.1 h
    refine iff_of_false ?_ fun hno => hno hnd
    rintro ⟨e, he⟩
    rw [← t.map_variant_toList] at hnd
    rw [render_rust_eq_ok_iff.2 ⟨_, Dispatch.ofTable_eq_ok_iff.2 ⟨hnd, rfl⟩, rfl⟩] at he
    cases he

/-- A table that is not rendered is reported with its first collision, and the sink is left as it
    was. -/
theorem renderReport_of_error {e : RenderError} (h : (Format.rust style).render t = .error e)
    (sink : Sink) :
    ∃ c : Collision, c.FirstAmong t.names ∧
      (Format.rust style).renderReport t sink = ⟨[c.event], .error ⟨.collision c, sink⟩⟩ := by
  cases hc : Variant.idents t.names with
  | ok ids =>
    obtain ⟨rfl, hnd⟩ := Variant.idents_eq_ok_iff.1 hc
    exact absurd hnd (exists_render_rust_error_iff.1 ⟨e, h⟩)
  | error c =>
    refine ⟨c, Variant.firstAmong_of_idents hc, ?_⟩
    rw [renderReport, renderInto_of_collision (pieces_rust_of_idents hc)]

/-- **What becomes of a table as Rust source.** It fails just when a word that has to be escaped stands
    beside its escaped form. Then nothing is written, and one warning names the first opcode whose
    identifier is taken, behind the opcode that has it. Otherwise each variant has one identifier of its
    own, which stands for it in all lines of the text. The other formats never fail. -/
theorem render_outcome {records : List Record} {t : Table} (hb : Table.build records = .ok t)
    (style : DispatchStyle) :
    ((∃ e, (Format.rust style).render t = .error e) ↔
      (∃ r ∈ Variant.reserved, r ∈ t.names ∧ r ++ "_" ∈ t.names) ∨
        ∃ k ∈ Variant.keywords, k ∈ t.names ∧ "r#" ++ k ∈ t.names) ∧
    (∀ e, (Format.rust style).render t = .error e → ∀ sink,
      ∃ c : Collision, c.FirstAmong t.names ∧ (Format.rust style).renderReport t sink =
        ⟨[⟨.warn, "Opcodes " ++ c.first ++ " and " ++ c.second ++ " both render as variant " ++
          c.ident⟩], .error ⟨.collision c, sink⟩⟩) ∧
    (∀ text, (Format.rust style).render t = .ok text → (∀ name ∈ t.names, isName name = true) →
      ∃ m, Dispatch.ofTable style t = .ok m ∧ text = String.join m.pieces ∧ m.Coherent ∧
        m.all.Nodup ∧ (∀ id ∈ m.all, Variant.IsIdentifier id) ∧ m.all.length = t.size ∧
        text = String.join ((Dispatch.linesUnder style m.all t.toList).map (· ++ "\n"))) ∧
    (∀ (perLine : Nat) (t : Table), ∃ text, (Format.onikiri perLine).render t = .ok text) ∧
    ∀ t : Table, ∃ text, Format.json.render t = .ok text := by
  have hnd := (Table.represents_of_build hb).1.nodup_names
  refine ⟨?_, fun e he sink => renderReport_of_error he sink, ?_,
    fun perLine t => ⟨_, render_of_pieces rfl⟩, fun t => ⟨_, render_of_pieces rfl⟩⟩
  · rw [exists_render_rust_error_iff, Variant.nodup_map_ident_iff hnd]
    push Not
    constructor
    · rintro ⟨a, ha, b, hb, hab⟩
      cases hab with
      | underscore hr => exact Or.inl ⟨a, hr, ha, hb⟩
      | raw hk => exact Or.inr ⟨a, hk, ha, hb⟩
    · rintro (⟨r, hr, hword, hescaped⟩ | ⟨k, hk, hword, hescaped⟩)
      · exact ⟨r, hword, _, hescaped, .underscore hr⟩
      · exact ⟨k, hword, _, hescaped, .raw hk⟩
  · intro text htext hnames
    obtain ⟨m, hm, rfl⟩ := render_rust_eq_ok_iff.1 htext
    obtain ⟨hvariants, rfl⟩ := Dispatch.ofTable_eq_ok_iff.1 hm
    refine ⟨_, hm, rfl, Dispatch.coherent_ofEntries style t.toList, hvariants, ?_, List.length_map _, ?_⟩
    · intro id hid
      rw [Dispatch.ofEntries, t.map_variant_toList] at hid
      obtain ⟨name, hname, rfl⟩ := List.mem_map.1 hid
      exact Variant.isIdentifier_ident (hnames name hname)
    · exact Dispatch.join_pieces_ofEntries style t.toList

/-- Two pairs of names that collide, one of them inside the other, and two names that do not. -/
theorem render_outcome_nested :
    let shape : Shape := ⟨.zero, .zero⟩
    let distinct : List Record := [⟨0, "loop", shape, none, 1⟩, ⟨1, "Self_", shape, none, 2⟩]
    let records := distinct ++ [⟨2, "Self", shape, none, 3⟩, ⟨3, "r#loop", shape, none, 4⟩]
    let t := records.foldl Table.push .empty
    let t' := distinct.foldl Table.push .empty
    (Table.build records = .ok t ∧ (∃ e, (Format.rust {}).render t = .error e) ∧
      ∃ c : Collision, c.FirstAmong t.names ∧ (Format.rust {}).renderReport t (.bounded 7) =
        ⟨[c.event], .error ⟨.collision c, .bounded 7⟩⟩) ∧
    Table.build distinct = .ok t' ∧
      ∃ m : Dispatch, (Format.rust {}).render t' = .ok (String.join m.pieces) ∧
        m.all = ["r#loop", "Self_"] ∧ m.all.Nodup ∧ (∀ id ∈ m.all, Variant.IsIdentifier id) ∧
        String.join m.pieces =
          String.join ((Dispatch.linesUnder {} ["r#loop", "Self_"] t'.toList).map (· ++ "\n")) := by
  intro shape distinct records t t'
  have hb : Table.build records = .ok t := Table.build_eq_ok_iff.2 ⟨by decide, by decide, rfl⟩
  have hb' : Table.build distinct = .ok t' := Table.build_eq_ok_iff.2 ⟨by decide, by decide, rfl⟩
  obtain ⟨hfails, hreport, -⟩ := render_outcome hb {}
  obtain ⟨e, he⟩ := hfails.2 (Or.inl ⟨"Self", by decide, by decide, by decide⟩)
  obtain ⟨-, -, hwritten, -⟩ := render_outcome hb' {}
  have hm : Dispatch.ofTable {} t' = .ok (.ofEntries {} t'.toList) :=
    Dispatch.ofTable_eq_ok_iff.2 ⟨by decide, rfl⟩
  have htext := render_rust_eq_ok_iff.2 ⟨_, hm, rfl⟩
  obtain ⟨m, hm', -, -, hnd, hid, -, hlines⟩ := hwritten _ htext (by decide)
  obtain rfl := Except.ok.inj (hm.symm.trans hm')
  exact ⟨⟨hb, ⟨e, he⟩, hreport e he (.bounded 7)⟩, hb', _, htext, rfl, hnd, hid, hlines⟩

end Format

end IsaTable
