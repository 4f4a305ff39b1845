/-
  Modules with the same text.

  A generated module is compared with another one from the front, section by section. The name of the
  enum may hold anything, line ends too; but it is the same in both, so each line goes on with the part
  that can differ, and that part ends where a character stands that it does not hold.

  * `eq_of_append_cons`: texts are cut alike in front of a character that occurs in neither part.
  * `eq_of_read_eq`: what is read back tells what was written.
  * `Dispatch.eq_of_block_eq`: lines that agree in a key are compared one by one.
  * `Dispatch.eq_of_join_pieces_eq`: modules with the same text are the same.
  * `Format.render_rust_inj`: two tables have the same text just when they say the same of decoding.
-/
import IsaTable.Proofs.Meaning

namespace IsaTable

/-! ## Cutting texts alike -/

/-- Texts are cut alike in front of a character that occurs in neither part. -/
theorem eq_of_append_cons {α : Type} {c : α} {s t x y : List α} (hs : c ∉ s) (ht : c ∉ t)
    (h : s ++ c :: x = t ++ c :: y) : s = t ∧ x = y := by
  induction s generalizing t with
  | nil =>
    cases t with
    | nil => exact ⟨rfl, (List.cons.inj h).2⟩
    | cons b t =>
      obtain ⟨rfl, -⟩ := List.cons.inj h
      exact absurd List.mem_cons_self ht
  | cons a s ih =>
    cases t with
    | nil =>
      obtain ⟨rfl, -⟩ := List.cons.inj h
      exact absurd List.mem_cons_self hs
    | cons b t =>
      obtain ⟨rfl, htail⟩ := List.cons.inj h
      obtain ⟨rfl, hxy⟩ := ih (fun hm => hs (List.mem_cons_of_mem _ hm))
        (fun hm => ht (List.mem_cons_of_mem _ hm)) htail
      exact ⟨rfl, hxy⟩

theorem append_tail (a b c d e : String) : a ++ b ++ c ++ d ++ e = a ++ b ++ (c ++ d ++ e) := by
  simp only [String.append_assoc]

theorem head?_toList_append {s : String} {c : Char} (h : s.toList.head? = some c) (t : String) :
    (s ++ t).toList.head? = some c := by
  rw [String.toList_append, List.head?_append, h]
  rfl

section
variable {start part part' : String} {x y : List Char} {c : Char}

/-- Behind a common start, parts are cut alike in front of a character that they do not hold. -/
theorem eq_of_append_part (hs : c ∉ part.toList) (ht : c ∉ part'.toList)
    (h : (start ++ part).toList ++ c :: x = (start ++ part').toList ++ c :: y) :
    part = part' ∧ x = y := by
  rw [String.toList_append, String.toList_append, List.append_assoc, List.append_assoc] at h
  obtain ⟨hpart, hxy⟩ := eq_of_append_cons hs ht (List.append_cancel_left h)
  exact ⟨String.toList_inj.1 hpart, hxy⟩

/-- Here the character begins what stands between the part and the end of the line. -/
theorem eq_of_append_part_append {rest rest' : String} (hrest : rest.toList.head? = some c)
    (hrest' : rest'.toList.head? = some c) (hs : c ∉ part.toList) (ht : c ∉ part'.toList)
    (h : (start ++ part ++ rest).toList ++ x = (start ++ part' ++ rest').toList ++ y) :
    part = part' ∧ rest.toList ++ x = rest'.toList ++ y := by
  obtain ⟨cs, hcs⟩ := List.head?_eq_some_iff.1 hrest
  obtain ⟨cs', hcs'⟩ := List.head?_eq_some_iff.1 hrest'
  rw [String.toList_append, @String.toList_append (start ++ part'), List.append_assoc,
    List.append_assoc, hcs, hcs', List.cons_append, List.cons_append] at h
  obtain ⟨hpart, hxy⟩ := eq_of_append_part hs ht h
  rw [hcs, hcs', List.cons_append, List.cons_append, hxy]
  exact ⟨hpart, rfl⟩

end

/-! ## Lines -/

/-- What is read back tells what was written. -/
theorem eq_of_read_eq {α β : Type} {read : β → Option α} {x y : β} {a b : α} (ha : read x = some a)
    (hb : read y = some b) (h : x = y) : a = b := by
  rw [h, hb] at ha
  exact (Option.some.inj ha).symm

theorem Arity.name_inj {a b : Arity} (h : a.name = b.name) : a = b :=
  eq_of_read_eq (Arity.ofName?_name a) (Arity.ofName?_name b) (congrArg String.toList h)

theorem Extension.name_inj {e f : Extension} (h : e.name = f.name) : e = f :=
  eq_of_read_eq (Extension.ofName?_name e) (Extension.ofName?_name f) (congrArg String.toList h)

theorem Opcode.hex_inj {v w : Opcode} (h : v.hex = w.hex) : v = w :=
  eq_of_read_eq (Opcode.ofLiteral?_hex v) (Opcode.ofLiteral?_hex w) h

namespace Dispatch

section
variable {x y : List Char}

theorem eq_of_variantLine {v w : String × UInt32} (hv : Text.IsWord v.1) (hw : Text.IsWord w.1)
    (h : (variantLine v).toList ++ '\n' :: x = (variantLine w).toList ++ '\n' :: y) :
    v = w ∧ x = y := by
  obtain ⟨hline, hxy⟩ :=
    eq_of_append_cons (isLine_variantLine hv).1 (isLine_variantLine hw).1 h
  exact ⟨eq_of_read_eq (readVariant?_variantLine hv) (readVariant?_variantLine hw) hline, hxy⟩

variable (enumName : String)

theorem eq_of_shapeLine {a b : String × Shape} (hkey : a.1 = b.1)
    (h : (shapeLine enumName a).toList ++ '\n' :: x = (shapeLine enumName b).toList ++ '\n' :: y) :
    a = b ∧ x = y := by
  obtain ⟨ident, arity, extension⟩ := a
  obtain ⟨ident', arity', extension'⟩ := b
  obtain rfl : ident = ident' := hkey
  have hline (arity : Arity) (extension : Extension) :
      shapeLine enumName (ident, ⟨arity, extension⟩) =
        "            " ++ qualified enumName ident ++ " => (RegisterArity::" ++ arity.name ++
          (", SignExtension::" ++ extension.name ++ "),") :=
    append_tail _ _ _ _ _
  have hcomma (extension : Extension) :
      (", SignExtension::" ++ extension.name ++ "),").toList.head? = some ',' :=
    head?_toList_append (head?_toList_append rfl _) _
  rw [hline, hline] at h
  obtain ⟨harity, hrest⟩ := eq_of_append_part_append (hcomma extension) (hcomma extension')
    (by cases arity <;> decide) (by cases arity' <;> decide) h
  obtain ⟨hextension, hend⟩ := eq_of_append_part_append (c := ')') rfl rfl
    (by cases extension <;> decide) (by cases extension' <;> decide) hrest
  rw [Arity.name_inj harity, Extension.name_inj hextension]
  exact ⟨rfl, (List.cons.inj (List.append_cancel_left hend)).2⟩

theorem eq_of_valueLine {a b : Opcode × String} (hkey : a.2 = b.2)
    (h : (valueLine enumName a).toList ++ '\n' :: x = (valueLine enumName b).toList ++ '\n' :: y) :
    a = b ∧ x = y := by
  obtain ⟨value, ident⟩ := a
  obtain ⟨value', ident'⟩ := b
  obtain rfl : ident = ident' := hkey
  have hline (value : Opcode) : valueLine enumName (value, ident) =
      "            " ++ value.hex ++ (" => Some(" ++ qualified enumName ident ++ "),") :=
    append_tail _ _ _ _ _
  have hspace : (" => Some(" ++ qualified enumName ident ++ "),").toList.head? = some ' ' :=
    head?_toList_append (head?_toList_append rfl _) _
  have hword (value : Opcode) : ' ' ∉ value.hex.toList := Text.isWord_hex _ ' ' (by decide)
  rw [hline, hline] at h
  obtain ⟨hhex, hend⟩ := eq_of_append_part_append hspace hspace (hword value) (hword value') h
  rw [Opcode.hex_inj hhex]
  exact ⟨rfl, (List.cons.inj (List.append_cancel_left hend)).2⟩

theorem literal_inj {s t : String} (h : literal s = literal t) : s = t := by
  have hchars : s.toList = t.toList := eq_of_read_eq (Text.unquote?_quote Text.isPlain s.toList)
    (Text.unquote?_quote Text.isPlain t.toList) (String.ofList_inj.1 h)
  exact String.toList_inj.1 hchars

theorem eq_of_labelLine {a b : String × String} (hkey : a.1 = b.1)
    (h : (labelLine enumName a).toList ++ '\n' :: x = (labelLine enumName b).toList ++ '\n' :: y) :
    a = b ∧ x = y := by
  obtain ⟨ident, text⟩ := a
  obtain ⟨ident', text'⟩ := b
  obtain rfl : ident = ident' := hkey
  have hline (text : String) : labelLine enumName (ident, text) =
      "            " ++ qualified enumName ident ++ " => " ++ (literal text ++ ",") :=
    String.append_assoc
  have hliteral (text : String) : Text.IsLine (literal text ++ ",") :=
    (Text.isLine_quote Text.isPlain text.toList).append (by decide)
  rw [hline, hline] at h
  obtain ⟨hquoted, hxy⟩ := eq_of_append_part (hliteral text).1 (hliteral text').1 h
  exact ⟨by rw [literal_inj ((String.append_left_inj ",").1 hquoted)], hxy⟩

end

/-! ## Sections -/

/-- The text of lines, each with its end. -/
def block (ls : List String) : List Char :=
  Text.unlines (fixed ls)

theorem block_append (ls ms : List String) : block (ls ++ ms) = block ls ++ block ms := by
  rw [block, fixed_append, Text.unlines, List.flatMap_append]
  rfl

theorem block_cons (l : String) (ls : List String) :
    block (l :: ls) = l.toList ++ '\n' :: block ls := by
  simp [block, fixed, Text.unlines]

theorem toList_join_pieces (m : Dispatch) : (String.join m.pieces).toList = block m.lines := by
  have h := toList_foldl_pieces m.lines ""
  rwa [String.toList_empty, List.nil_append] at h

/-- **Lines that agree in a key** are compared one by one, if the key and the line tell the item. -/
theorem eq_of_block_eq {α κ : Type} {line : α → String} {key : α → κ}
    (hline : ∀ a b x y, key a = key b →
      (line a).toList ++ '\n' :: x = (line b).toList ++ '\n' :: y → a = b ∧ x = y)
    {as bs : List α} {x y : List Char} (hkey : as.map key = bs.map key)
    (h : block (as.map line) ++ x = block (bs.map line) ++ y) : as = bs ∧ x = y := by
  induction as generalizing bs with
  | nil =>
    obtain rfl : bs = [] := List.map_eq_nil_iff.1 hkey.symm
    exact ⟨rfl, List.append_cancel_left h⟩
  | cons a as ih =>
    obtain ⟨b, bs, rfl, hab, hkeys⟩ := List.map_eq_cons_iff.1 hkey.symm
    simp only [List.map_cons, block_cons, List.append_assoc, List.cons_append] at h
    obtain ⟨rfl, hrest⟩ := hline a b _ _ hab.symm h
    obtain ⟨rfl, hxy⟩ := ih hkeys.symm hrest
    exact ⟨rfl, hxy⟩

theorem head?_block_variants (v : String × UInt32) (vs : List (String × UInt32)) (x : List Char) :
    (block ((v :: vs).map variantLine) ++ x).head? = some ' ' := by
  have hline : (variantLine v).toList.head? = some ' ' := by
    iterate 4 apply head?_toList_append
    rfl
  rw [List.map_cons, block_cons, List.append_assoc, List.head?_append, hline]
  rfl

/-- The variants are compared up to the brace that closes the enum. How many there are need not be
    known: their lines begin with a space. -/
theorem eq_of_variants_eq {vs ws : List (String × UInt32)} {x y : List Char}
    (hvs : ∀ v ∈ vs, Text.IsWord v.1) (hws : ∀ w ∈ ws, Text.IsWord w.1)
    (hx : x.head? = some '\x7d') (hy : y.head? = some '\x7d')
    (h : block (vs.map variantLine) ++ x = block (ws.map variantLine) ++ y) : vs = ws ∧ x = y := by
  induction vs generalizing ws with
  | nil =>
    cases ws with
    | nil => exact ⟨rfl, h⟩
    | cons w ws =>
      have hxw : x = block ((w :: ws).map variantLine) ++ y := h
      rw [hxw, head?_block_variants] at hx
      cases hx
  | cons v vs ih =>
    cases ws with
    | nil =>
      have hyv : block ((v :: vs).map variantLine) ++ x = y := h
      rw [← hyv, head?_block_variants] at hy
      cases hy
    | cons w ws =>
      obtain ⟨hv, hvs'⟩ := List.forall_mem_cons.1 hvs
      obtain ⟨hw, hws'⟩ := List.forall_mem_cons.1 hws
      simp only [List.map_cons, block_cons, List.append_assoc, List.cons_append] at h
      obtain ⟨hvw, hrest⟩ := eq_of_variantLine hv hw h
      obtain ⟨htail, hxy⟩ := ih hvs' hws' hrest
      exact ⟨by rw [hvw, htail], hxy⟩

/-- An enum has a representation or has none, and the next line tells which. -/
theorem representation_eq {n k : Nat} {enumName : String} {x y : List Char}
    (h : block (representation n) ++ (block [enumLine enumName] ++ x) =
      block (representation k) ++ (block [enumLine enumName] ++ y)) :
    representation n = representation k := by
  have henum (rest : List Char) : (block [enumLine enumName] ++ rest).head? = some 'p' := by
    have hline : (enumLine enumName).toList.head? = some 'p' :=
      head?_toList_append (head?_toList_append rfl _) _
    rw [block_cons, List.append_assoc, List.head?_append, hline]
    rfl
  have hrepr (rest : List Char) : (block ["#[repr(u32)]"] ++ rest).head? = some '#' := rfl
  have hhead := congrArg List.head? h
  unfold representation at hhead ⊢
  split at hhead <;> split at hhead
  · rw [if_pos ‹_›, if_pos ‹_›]
  · rw [hrepr, show block [] = [] from rfl, List.nil_append, henum] at hhead
    cases hhead
  · rw [hrepr, show block [] = [] from rfl, List.nil_append, henum] at hhead
    cases hhead
  · rw [if_neg ‹_›, if_neg ‹_›]

/-! ## The module -/

/-- The sections of the text, each in front of what is behind it. -/
theorem block_lines (m : Dispatch) :
    block m.lines = block preamble ++ (block (representation m.count) ++
      (block [enumLine m.enumName] ++ (block (m.variants.map variantLine) ++
      (block (enumEnd m.enumName) ++
      (block [countLine m.count, "", allLine m.enumName m.count m.all] ++ (block shapesStart ++
      (block (m.shapes.map (shapeLine m.enumName)) ++ (block valuesStart ++
      (block (m.values.map (valueLine m.enumName)) ++ (block (labelsStart m.enumName) ++
      (block (m.labels.map (labelLine m.enumName)) ++ block ending))))))))))) := by
  simp only [lines, block_append, List.append_assoc]

/-- **Modules with the same text are the same**, whatever their enum is called. -/
theorem eq_of_join_pieces_eq {m n : Dispatch} (hm : m.Coherent) (hn : n.Coherent)
    (hmw : ∀ v ∈ m.variants, Text.IsWord v.1) (hnw : ∀ v ∈ n.variants, Text.IsWord v.1)
    (hname : m.enumName = n.enumName) (h : String.join m.pieces = String.join n.pieces) : m = n := by
  have htext := congrArg String.toList h
  rw [toList_join_pieces, toList_join_pieces, block_lines, block_lines, hname] at htext
  replace htext := List.append_cancel_left htext
  rw [representation_eq htext] at htext
  replace htext := List.append_cancel_left (List.append_cancel_left htext)
  obtain ⟨hvariants, htext⟩ := eq_of_variants_eq hmw hnw rfl rfl htext
  -- with the variants, all lines up to the shapes are known
  have hall : m.all = n.all := by rw [← hm.variants, ← hn.variants, hvariants]
  have hcount : m.count = n.count := by rw [hm.count, hn.count, hall]
  rw [hall, hcount] at htext
  replace htext := List.append_cancel_left (List.append_cancel_left (List.append_cancel_left htext))
  obtain ⟨hshapes, htext⟩ := eq_of_block_eq (fun _ _ _ _ => eq_of_shapeLine n.enumName)
    ((hm.shapes.trans hall).trans hn.shapes.symm) htext
  replace htext := List.append_cancel_left htext
  obtain ⟨hvalues, htext⟩ := eq_of_block_eq (fun _ _ _ _ => eq_of_valueLine n.enumName)
    ((hm.values.trans hall).trans hn.values.symm) htext
  replace htext := List.append_cancel_left htext
  obtain ⟨hlabels, -⟩ := eq_of_block_eq (fun _ _ _ _ => eq_of_labelLine n.enumName)
    ((hm.labels.trans hall).trans hn.labels.symm) htext
  cases m
  cases n
  rw [Dispatch.mk.injEq]
  exact ⟨hname, hcount, hvariants, hall, hshapes, hvalues, hlabels⟩

end Dispatch

/-! ## Tables -/

/-- What an entry says of decoding. -/
def Entry.content (e : Entry) : String × Opcode × Arity × Extension :=
  (e.record.name, e.record.opcode, e.record.shape.arity, e.record.shape.extension)

theorem Table.Represents.map_ordinal_toList {t : Table} {records : List Record}
    (h : t.Represents records) :
    t.toList.map (·.ordinal) = (List.range records.length).map UInt32.ofNat := by
  apply List.ext_getElem?
  intro i
  rw [List.getElem?_map, toList, Array.getElem?_toList, h.entries, List.getElem?_map]
  by_cases hi : i < records.length
  · rw [List.getElem?_eq_getElem hi, List.getElem?_range hi]
    rfl
  · rw [List.getElem?_eq_none (by omega), List.getElem?_eq_none (by simpa using hi)]
    rfl

namespace Dispatch

variable {style : DispatchStyle} {es fs : List Entry}

/-- The identifiers of entries with proper names are words. -/
theorem isWord_variants_of_represents {t : Table} {records : List Record} (h : t.Represents records)
    (hn : ∀ r ∈ records, isName r.name = true) :
    ∀ v ∈ (ofEntries style t.toList).variants, Text.IsWord v.1 := by
  refine List.forall_mem_map.2 fun e he => ?_
  obtain ⟨i, r, hr, rfl⟩ := h.mem_toList_iff.1 he
  exact Variant.isWord_ident (hn r (List.mem_of_getElem? hr))

theorem map_comp_eq {α β γ : Type} {f : α → β} {as bs : List α} (h : as.map f = bs.map f)
    (g : β → γ) : as.map (fun a => g (f a)) = bs.map fun a => g (f a) := by
  have hmap := congrArg (List.map g) h
  rwa [List.map_map, List.map_map] at hmap

/-- The dispatch of entries is made from their ordinals and from what they say of decoding. -/
theorem ofEntries_congr (hordinal : es.map (·.ordinal) = fs.map (·.ordinal))
    (hcontent : es.map Entry.content = fs.map Entry.content) :
    ofEntries style es = ofEntries style fs := by
  have hzip (es : List Entry) : es.map (fun e => (e.ordinal, e.content)) =
      (es.map (·.ordinal)).zip (es.map Entry.content) := by
    rw [List.zip_map']
  have hboth : es.map (fun e => (e.ordinal, e.content)) = fs.map fun e => (e.ordinal, e.content) := by
    rw [hzip, hzip, hordinal, hcontent]
  rw [ofEntries, ofEntries, Dispatch.mk.injEq]
  refine ⟨rfl, ?_, ?_, ?_, ?_, ?_, ?_⟩
  · simpa using congrArg List.length hcontent
  · exact map_comp_eq hboth fun p => (Variant.ident p.2.1, p.1)
  · exact map_comp_eq hcontent fun c => Variant.ident c.1
  · exact map_comp_eq hcontent fun c => (Variant.ident c.1, Shape.mk c.2.2.1 c.2.2.2)
  · exact map_comp_eq hcontent fun c => (c.2.1, Variant.ident c.1)
  · exact map_comp_eq hcontent fun c => (Variant.ident c.1, style.label ++ c.1)

/-- **The dispatch of entries tells what they say of decoding.** Their names are told by the displayed
    texts, since the identifiers do not tell them. -/
theorem map_content_eq_of_ofEntries_eq (h : ofEntries style es = ofEntries style fs) :
    es.map Entry.content = fs.map Entry.content := by
  have hnames : es.map (·.record.name) = fs.map (·.record.name) := by
    rw [← List.map_inj_right fun a b => (String.append_right_inj style.label).1, List.map_map,
      List.map_map]
    exact map_comp_eq (congrArg labels h) Prod.snd
  have hvalues : es.map (·.record.opcode) = fs.map (·.record.opcode) :=
    map_comp_eq (congrArg values h) Prod.fst
  have hshapes : es.map (fun e => (e.record.shape.arity, e.record.shape.extension)) =
      fs.map fun e => (e.record.shape.arity, e.record.shape.extension) :=
    map_comp_eq (congrArg shapes h) fun arm => (arm.2.arity, arm.2.extension)
  have hzip (es : List Entry) : es.map Entry.content =
      (es.map (·.record.name)).zip ((es.map (·.record.opcode)).zip
        (es.map fun e => (e.record.shape.arity, e.record.shape.extension))) := by
    rw [List.zip_map', List.zip_map']
    rfl
  rw [hzip, hzip, hnames, hvalues, hshapes]

/-- The texts of two tables are the same just when these say the same of decoding. -/
theorem join_pieces_eq_iff (style : DispatchStyle) {t t' : Table} {records records' : List Record}
    (h : t.Represents records) (h' : t'.Represents records')
    (hn : ∀ r ∈ records, isName r.name = true) (hn' : ∀ r ∈ records', isName r.name = true) :
    String.join (ofEntries style t.toList).pieces = String.join (ofEntries style t'.toList).pieces ↔
      t.toList.map Entry.content = t'.toList.map Entry.content := by
  constructor
  · intro htext
    exact map_content_eq_of_ofEntries_eq (eq_of_join_pieces_eq (coherent_ofEntries style _)
      (coherent_ofEntries style _) (isWord_variants_of_represents h hn)
      (isWord_variants_of_represents h' hn') rfl htext)
  · intro hcontent
    have hlength : records.length = records'.length := by
      rw [← h.map_record_toList, ← h'.map_record_toList]
      simpa using congrArg List.length hcontent
    have hordinal : t.toList.map (·.ordinal) = t'.toList.map (·.ordinal) := by
      rw [h.map_ordinal_toList, h'.map_ordinal_toList, hlength]
    rw [ofEntries_congr hordinal hcontent]

end Dispatch

namespace Format

/-- **Two tables have the same text just when they say the same of decoding.** The name of the enum and
    the label may be any texts. Names with the same identifier are still told apart. -/
theorem render_rust_inj {style : DispatchStyle} {rs₁ rs₂ : List Record} {t₁ t₂ : Table}
    {text₁ text₂ : String} (hb₁ : Table.build rs₁ = .ok t₁) (hb₂ : Table.build rs₂ = .ok t₂)
    (hn₁ : ∀ r ∈ rs₁, isName r.name = true) (hn₂ : ∀ r ∈ rs₂, isName r.name = true)
    (h₁ : (Format.rust style).render t₁ = .ok text₁)
    (h₂ : (Format.rust style).render t₂ = .ok text₂) :
    (text₁ = text₂ ↔ t₁.toList.map Entry.content = t₂.toList.map Entry.content) ∧
    (Variant.ident "self" = Variant.ident "self_" ∧
      ∀ i : Nat, t₁.names[i]? = some "self" → t₂.names[i]? = some "self_" → text₁ ≠ text₂) := by
  obtain ⟨m₁, hm₁, rfl⟩ := render_rust_eq_ok_iff.1 h₁
  obtain ⟨m₂, hm₂, rfl⟩ := render_rust_eq_ok_iff.1 h₂
  obtain ⟨-, rfl⟩ := Dispatch.ofTable_eq_ok_iff.1 hm₁
  obtain ⟨-, rfl⟩ := Dispatch.ofTable_eq_ok_iff.1 hm₂
  have hiff := Dispatch.join_pieces_eq_iff style (Table.represents_of_build hb₁).1
    (Table.represents_of_build hb₂).1 hn₁ hn₂
  refine ⟨hiff, by decide, fun i hfirst hsecond htext => ?_⟩
  have hnames : t₁.names = t₂.names := Dispatch.map_comp_eq (hiff.1 htext) Prod.fst
  rw [hnames, hsecond] at hfirst
  exact absurd (Option.some.inj hfirst) (by decide)

/-- The two names in an enum whose name looks like the lines behind it. -/
theorem render_rust_inj_self :
    let style : DispatchStyle := ⟨"A \x7b\n    self_ = 0,\n\x7d", "\"\\\n"⟩
    let rs₁ : List Record := [⟨3, "self", ⟨.one, .sign⟩, none, 1⟩]
    let rs₂ : List Record := [⟨3, "self_", ⟨.one, .sign⟩, none, 1⟩]
    let t₁ := rs₁.foldl Table.push .empty
    let t₂ := rs₂.foldl Table.push .empty
    Table.build rs₁ = .ok t₁ ∧ Table.build rs₂ = .ok t₂ ∧
      ∃ text₁ text₂, (Format.rust style).render t₁ = .ok text₁ ∧
        (Format.rust style).render t₂ = .ok text₂ ∧ text₁ ≠ text₂ := by
  intro style rs₁ rs₂ t₁ t₂
  have hb₁ : Table.build rs₁ = .ok t₁ := Table.build_eq_ok_iff.2 ⟨by decide, by decide, rfl⟩
  have hb₂ : Table.build rs₂ = .ok t₂ := Table.build_eq_ok_iff.2 ⟨by decide, by decide, rfl⟩
  have hrender {t : Table} (hnd : (t.toList.map Entry.variant).Nodup) :
      ∃ text, (Format.rust style).render t = .ok text :=
    ⟨_, render_rust_eq_ok_iff.2 ⟨_, Dispatch.ofTable_eq_ok_iff.2 ⟨hnd, rfl⟩, rfl⟩⟩
  obtain ⟨text₁, h₁⟩ := hrender (t := t₁) (by decide)
  obtain ⟨text₂, h₂⟩ := hrender (t := t₂) (by decide)
  obtain ⟨-, -, hself⟩ := render_rust_inj hb₁ hb₂ (by decide) (by decide) h₁ h₂
  exact ⟨hb₁, hb₂, text₁, text₂, h₁, h₂, hself 0 rfl rfl⟩

end Format

end IsaTable
