/-
  JSON dumps read back.

  What is written for a value is read as that value, whatever text stands behind it that does not go on
  a number.

  * `Json.readString?_escape`: strings, with every character that has to be escaped.
  * `Json.readNumber?_numeral`: numbers of any size.
  * `Json.readValue?_pretty`, `Json.ofText?_pretty`: values, whatever their depth and indentation.
  * `Table.ofText?_dump`: the dump of a table denotes the array of its opcodes.
  * `Format.ofText?_render_json`: the rendered text of a built table tells each opcode with its note.
-/
import IsaTable.Json.Reader
import IsaTable.Proofs.Contents
import IsaTable.Proofs.Rendering

namespace IsaTable

namespace Text

theorem isDigit_digitChar {d : Nat} (h : d < 10) : (digitChar d).isDigit = true := by
  have all : ∀ d < 10, (digitChar d).isDigit = true := by decide
  exact all d h

theorem isDigit_of_mem_numeral (n : Nat) : ∀ c ∈ numeral 10 n, c.isDigit = true := by
  intro c hc
  obtain ⟨d, hd, rfl⟩ := exists_digit_of_mem_numeral (by decide) hc
  exact isDigit_digitChar hd

/-- A positive number has no leading zero. -/
theorem head?_numeral_ne {n : Nat} (h : 0 < n) : (numeral 10 n).head? ≠ some '0' := by
  fun_induction numeral 10 n with
  | case1 n hn =>
    have all : ∀ d < 10, 0 < d → digitChar d ≠ '0' := by decide
    simpa using all n (by omega) h
  | case2 n hn ih =>
    rw [List.head?_append, Option.or_of_isSome (by simp [numeral_ne_nil])]
    exact ih (by omega)

end Text

namespace Json

/-! ## Strings -/

/-- The digits of a control character are read as its code point. -/
theorem endCode?_control {c : Char} (h : c.toNat < 0x20) :
    endCode? none ['0', '0', Text.digitChar (c.toNat / 16), Text.digitChar (c.toNat % 16)] =
      some (.plain, [c]) := by
  have hhigh : Text.digitValue? 16 (Text.digitChar (c.toNat / 16)) = some (c.toNat / 16) :=
    Text.digitValue?_digitChar (by omega) (by decide)
  have hlow : Text.digitValue? 16 (Text.digitChar (c.toNat % 16)) = some (c.toNat % 16) :=
    Text.digitValue?_digitChar (by omega) (by decide)
  have hzero : Text.digitValue? 16 '0' = some 0 := by decide
  have hvalue : Text.valueOf? 16
      ['0', '0', Text.digitChar (c.toNat / 16), Text.digitChar (c.toNat % 16)] = some c.toNat := by
    simp only [Text.valueOf?, List.foldlM_cons, List.foldlM_nil, Text.appendDigit?, hzero, hhigh, hlow,
      Option.map_some, Option.bind_eq_bind, Option.bind_some]
    exact congrArg some (by omega)
  have hplain : ¬ (0xD800 ≤ c.toNat ∧ c.toNat < 0xDC00) := by omega
  simp [endCode?, hvalue, hplain]

/-- What is written for a character is read as that character. -/
theorem readStringFrom?_escape (c : Char) (rest : List Char) :
    readStringFrom? .plain (escape c ++ rest) =
      (readStringFrom? .plain rest).map fun (text, rest) => (c :: text, rest) := by
  fun_cases escape c with
  | case1 | case2 | case3 | case4 | case5 | case6 | case7 =>
    simp_all [readStringFrom?, shortEscape?]
  | case8 =>
    have hcode := endCode?_control (c := c) (by assumption)
    simp [readStringFrom?, shortEscape?, hcode]
  | case9 hquote hslash _ _ _ _ _ hcontrol =>
    rw [List.singleton_append, readStringFrom?, if_neg hquote, if_neg hslash, if_neg hcontrol]

/-- **A written string is read back,** whatever stands behind it. -/
theorem readString?_escape (text : String) (rest : List Char) :
    readString? (text.toList.flatMap escape ++ '"' :: rest) = some (text, rest) := by
  have hchars (cs : List Char) :
      readStringFrom? .plain (cs.flatMap escape ++ '"' :: rest) = some (cs, rest) := by
    induction cs with
    | nil => simp [readStringFrom?]
    | cons c cs ih => simp [readStringFrom?_escape, ih]
  simp [readString?, hchars]

/-! ## Blanks and numbers -/

theorem skipSpace_newline (depth : Nat) (cs : List Char) :
    skipSpace (newline depth ++ cs) = skipSpace cs := by
  have hblank : ∀ c ∈ newline depth, isSpace c = true := by
    rw [newline, List.forall_mem_cons]
    refine ⟨by decide, fun c hc => ?_⟩
    rw [List.eq_of_mem_replicate hc]
    decide
  rw [skipSpace, List.dropWhile_append_of_pos hblank]
  rfl

/-- Text that does not go on with a digit. -/
def EndsNumber (rest : List Char) : Prop :=
  ∀ c ∈ rest.head?, c.isDigit = false

theorem readNumber?_numeral (n : Nat) {rest : List Char} (hrest : EndsNumber rest) :
    readNumber? (Text.numeral 10 n ++ rest) = some (n, rest) := by
  have hdrop : rest.dropWhile Char.isDigit = rest := by
    cases rest with
    | nil => rfl
    | cons c rest => rw [List.dropWhile_cons_of_neg (by simp [hrest c rfl])]
  have htake : rest.takeWhile Char.isDigit = [] := by
    cases rest with
    | nil => rfl
    | cons c rest => rw [List.takeWhile_cons_of_neg (by simp [hrest c rfl])]
  have hdigits : (Text.numeral 10 n ++ rest).takeWhile Char.isDigit = Text.numeral 10 n := by
    rw [List.takeWhile_append_of_pos (Text.isDigit_of_mem_numeral n), htake, List.append_nil]
  have hbehind : (Text.numeral 10 n ++ rest).dropWhile Char.isDigit = rest := by
    rw [List.dropWhile_append_of_pos (Text.isDigit_of_mem_numeral n), hdrop]
  have hzero : ¬ ((Text.numeral 10 n).head? = some '0' ∧ (Text.numeral 10 n).length ≠ 1) := by
    rintro ⟨hhead, hlength⟩
    rcases Nat.eq_zero_or_pos n with rfl | hn
    · exact hlength (by simp [Text.numeral])
    · exact Text.head?_numeral_ne hn hhead
  have hvalue := Text.valueOf?_numeral (show 2 ≤ 10 by decide) (by decide) n
  simp only [readNumber?, hdigits, hbehind, hvalue]
  rw [if_neg (not_or.2 ⟨Text.numeral_ne_nil 10 n, hzero⟩)]
  rfl

/-! ## One step of reading -/

section
variable {fuel : Nat} {cs ds rest rest' : List Char}

/-- Blanks in front of a value do not matter. -/
theorem readValue?_congr (h : skipSpace cs = skipSpace ds) :
    readValue? fuel cs = readValue? fuel ds := by
  cases fuel with
  | zero => rfl
  | succ fuel => rw [readValue?, readValue?, h]

theorem readMember?_congr (h : skipSpace cs = skipSpace ds) :
    readMember? fuel cs = readMember? fuel ds := by
  cases fuel with
  | zero => rfl
  | succ fuel => rw [readMember?, readMember?, h]

theorem readValue?_numeral (n : Nat) (hrest : EndsNumber rest) :
    readValue? (fuel + 1) (Text.numeral 10 n ++ rest) = some (.number n, rest) := by
  obtain ⟨c, digits, hdigits⟩ := List.exists_cons_of_ne_nil (Text.numeral_ne_nil 10 n)
  have hc : c.isDigit = true := Text.isDigit_of_mem_numeral n c (by simp [hdigits])
  have hnumber := readNumber?_numeral n hrest
  have hspace : isSpace c = false := by
    have hne : ∀ b, b.isDigit = false → c ≠ b := by
      rintro b hb rfl
      simp [hb] at hc
    simp [isSpace, hne]
  rw [hdigits, List.cons_append] at hnumber ⊢
  rw [readValue?, skipSpace, List.dropWhile_cons_of_neg (by simp [hspace])]
  -- a digit begins none of the other values
  split
  all_goals simp_all

theorem readValue?_null : readValue? (fuel + 1) ("null".toList ++ rest) = some (.null, rest) := by
  simp [readValue?, skipSpace, isSpace]

theorem readValue?_quote (text : String) :
    readValue? (fuel + 1) (quote text ++ rest) = some (.string text, rest) := by
  simp [readValue?, quote, skipSpace, isSpace, readString?_escape]

theorem readValue?_array_nil : readValue? (fuel + 1) ('[' :: ']' :: rest) = some (.array [], rest) := by
  simp [readValue?, skipSpace, isSpace]

theorem readValue?_object_nil :
    readValue? (fuel + 1) ('\x7b' :: '\x7d' :: rest) = some (.object [], rest) := by
  simp [readValue?, skipSpace, isSpace]

/-- Where a value begins, the array has not ended. -/
theorem head?_skipSpace_ne_of_readValue? {value : Json} (h : readValue? fuel cs = some (value, rest)) :
    (skipSpace cs).head? ≠ some ']' := by
  intro hend
  obtain ⟨ds, hds⟩ := List.head?_eq_some_iff.1 hend
  cases fuel with
  | zero => simp [readValue?] at h
  | succ fuel => simp [readValue?, hds, readNumber?] at h

/-- Where a member begins, the object has not ended. -/
theorem head?_skipSpace_ne_of_readMember? {member : String × Json}
    (h : readMember? fuel cs = some (member, rest)) : (skipSpace cs).head? ≠ some '\x7d' := by
  intro hend
  obtain ⟨ds, hds⟩ := List.head?_eq_some_iff.1 hend
  cases fuel with
  | zero => simp [readMember?] at h
  | succ fuel => simp [readMember?, hds] at h

theorem readValue?_array_cons {item : Json} {items : List Json}
    (hitem : readValue? fuel cs = some (item, rest))
    (hitems : readItems? fuel rest = some (items, rest')) :
    readValue? (fuel + 1) ('[' :: cs) = some (.array (item :: items), rest') := by
  have hne := head?_skipSpace_ne_of_readValue? hitem
  have hopen : skipSpace ('[' :: cs) = '[' :: cs := rfl
  simp only [readValue?, hopen]
  split
  · next hend => simp [hend] at hne
  · simp [hitem, hitems]

theorem readValue?_object_cons {member : String × Json} {members : List (String × Json)}
    (hmember : readMember? fuel cs = some (member, rest))
    (hmembers : readMembers? fuel rest = some (members, rest')) :
    readValue? (fuel + 1) ('\x7b' :: cs) = some (.object (member :: members), rest') := by
  have hne := head?_skipSpace_ne_of_readMember? hmember
  have hopen : skipSpace ('\x7b' :: cs) = '\x7b' :: cs := rfl
  simp only [readValue?, hopen]
  split
  · next hend => simp [hend] at hne
  · simp [hmember, hmembers]

theorem readMember?_quote (key : String) {value : Json}
    (h : readValue? fuel cs = some (value, rest)) :
    readMember? (fuel + 1) (quote key ++ ':' :: ' ' :: cs) = some ((key, value), rest) := by
  have hblank : readValue? fuel (' ' :: cs) = readValue? fuel cs := readValue?_congr rfl
  simp [readMember?, quote, skipSpace, isSpace, readString?_escape, hblank, h]

theorem readItems?_nil (depth : Nat) :
    readItems? (fuel + 1) (newline depth ++ ']' :: rest) = some ([], rest) := by
  rw [readItems?, skipSpace_newline]
  rfl

theorem readItems?_cons {item : Json} {items : List Json}
    (hitem : readValue? fuel cs = some (item, rest))
    (hitems : readItems? fuel rest = some (items, rest')) :
    readItems? (fuel + 1) (',' :: cs) = some (item :: items, rest') := by
  have hcomma : skipSpace (',' :: cs) = ',' :: cs := rfl
  simp [readItems?, hcomma, hitem, hitems]

theorem readMembers?_nil (depth : Nat) :
    readMembers? (fuel + 1) (newline depth ++ '\x7d' :: rest) = some ([], rest) := by
  rw [readMembers?, skipSpace_newline]
  rfl

theorem readMembers?_cons {member : String × Json} {members : List (String × Json)}
    (hmember : readMember? fuel cs = some (member, rest))
    (hmembers : readMembers? fuel rest = some (members, rest')) :
    readMembers? (fuel + 1) (',' :: cs) = some (member :: members, rest') := by
  have hcomma : skipSpace (',' :: cs) = ',' :: cs := rfl
  simp [readMembers?, hcomma, hmember, hmembers]

end

/-! ## Values -/

theorem endsNumber_cons {c : Char} (hc : c.isDigit = false) (cs : List Char) : EndsNumber (c :: cs) := by
  rintro _ ⟨⟩
  exact hc

theorem endsNumber_prettyItems (depth : Nat) (items : List Json) (rest : List Char) :
    EndsNumber (prettyItems depth items ++ rest) := by
  cases items with
  | nil => exact endsNumber_cons (by decide) _
  | cons item items => exact endsNumber_cons (by decide) _

theorem endsNumber_prettyMembers (depth : Nat) (members : List (String × Json)) (rest : List Char) :
    EndsNumber (prettyMembers depth members ++ rest) := by
  cases members with
  | nil => exact endsNumber_cons (by decide) _
  | cons member members => exact endsNumber_cons (by decide) _

mutual

/-- **A written value is read back,** whatever its depth, by a reader with more fuel than it has
    characters. -/
theorem readValue?_pretty : ∀ (depth fuel : Nat) (value : Json) (rest : List Char),
    (pretty depth value).length < fuel → EndsNumber rest →
      readValue? fuel (pretty depth value ++ rest) = some (value, rest)
  | _, 0, _, _, hfuel, _ => absurd hfuel (Nat.not_lt_zero _)
  | _, _ + 1, .null, _, _, _ => readValue?_null
  | _, _ + 1, .number n, _, _, hrest => readValue?_numeral n hrest
  | _, _ + 1, .string text, _, _, _ => readValue?_quote text
  | _, _ + 1, .array [], _, _, _ => readValue?_array_nil
  | depth, fuel + 1, .array (item :: items), rest, hfuel, _ => by
    rw [pretty] at hfuel
    simp only [List.length_cons, List.length_append] at hfuel
    have hitem := readValue?_pretty (depth + 1) fuel item (prettyItems depth items ++ rest) (by omega)
      (endsNumber_prettyItems depth items rest)
    have hitems := readItems?_prettyItems depth fuel items rest (by omega)
    rw [← readValue?_congr (skipSpace_newline (depth + 1) _)] at hitem
    simpa [pretty] using readValue?_array_cons hitem hitems
  | _, _ + 1, .object [], _, _, _ => readValue?_object_nil
  | depth, fuel + 1, .object ((key, value) :: members), rest, hfuel, _ => by
    rw [pretty] at hfuel
    simp only [List.length_cons, List.length_append] at hfuel
    have hmember := readMember?_pretty depth fuel key value (prettyMembers depth members ++ rest)
      (by omega) (endsNumber_prettyMembers depth members rest)
    have hmembers := readMembers?_prettyMembers depth fuel members rest (by omega)
    simpa [pretty] using readValue?_object_cons hmember hmembers

theorem readItems?_prettyItems : ∀ (depth fuel : Nat) (items : List Json) (rest : List Char),
    (prettyItems depth items).length < fuel →
      readItems? fuel (prettyItems depth items ++ rest) = some (items, rest)
  | _, 0, _, _, hfuel => absurd hfuel (Nat.not_lt_zero _)
  | depth, fuel + 1, [], rest, _ => by simpa [prettyItems] using readItems?_nil depth
  | depth, fuel + 1, item :: items, rest, hfuel => by
    rw [prettyItems] at hfuel
    simp only [List.length_cons, List.length_append] at hfuel
    have hitem := readValue?_pretty (depth + 1) fuel item (prettyItems depth items ++ rest) (by omega)
      (endsNumber_prettyItems depth items rest)
    have hitems := readItems?_prettyItems depth fuel items rest (by omega)
    rw [← readValue?_congr (skipSpace_newline (depth + 1) _)] at hitem
    simpa [prettyItems] using readItems?_cons hitem hitems

theorem readMember?_pretty : ∀ (depth fuel : Nat) (key : String) (value : Json) (rest : List Char),
    (pretty (depth + 1) value).length + 1 < fuel → EndsNumber rest →
      readMember? fuel
        (newline (depth + 1) ++ quote key ++ [':', ' '] ++ pretty (depth + 1) value ++ rest) =
          some ((key, value), rest)
  | _, 0, _, _, _, hfuel, _ => absurd hfuel (Nat.not_lt_zero _)
  | depth, fuel + 1, key, value, rest, hfuel, hrest => by
    have hvalue := readValue?_pretty (depth + 1) fuel value rest (by omega) hrest
    have hmember := readMember?_quote key hvalue
    rw [← readMember?_congr (skipSpace_newline (depth + 1) _)] at hmember
    simpa using hmember

theorem readMembers?_prettyMembers : ∀ (depth fuel : Nat) (members : List (String × Json))
    (rest : List Char), (prettyMembers depth members).length < fuel →
      readMembers? fuel (prettyMembers depth members ++ rest) = some (members, rest)
  | _, 0, _, _, hfuel => absurd hfuel (Nat.not_lt_zero _)
  | depth, fuel + 1, [], rest, _ => by simpa [prettyMembers] using readMembers?_nil depth
  | depth, fuel + 1, (key, value) :: members, rest, hfuel => by
    rw [prettyMembers] at hfuel
    simp only [List.length_cons, List.length_append] at hfuel
    have hmember := readMember?_pretty depth fuel key value (prettyMembers depth members ++ rest)
      (by omega) (endsNumber_prettyMembers depth members rest)
    have hmembers := readMembers?_prettyMembers depth fuel members rest (by omega)
    simpa [prettyMembers] using readMembers?_cons hmember hmembers

end

/-- **The text of a value denotes it.** The fuel of the reader is the length of the text, which bounds
    that of the value. -/
theorem ofText?_pretty (value : Json) :
    ofText? (String.ofList (pretty 0 value ++ ['\n'])) = some value := by
  have hfuel : (pretty 0 value).length < (String.ofList (pretty 0 value ++ ['\n'])).length + 1 := by
    rw [String.length_ofList, List.length_append]
    omega
  have hread := readValue?_pretty 0 _ value ['\n'] hfuel (endsNumber_cons (by decide) [])
  rw [ofText?, String.toList_ofList, hread]
  rfl

end Json

/-! ## Tables -/

theorem Table.ofText?_dump (t : Table) : Json.ofText? t.dump = some t.toJson :=
  Json.ofText?_pretty t.toJson

namespace Format

theorem render_json (t : Table) : Format.json.render t = .ok t.dump := by
  have hpieces : Format.json.pieces t = .ok [t.dump] := rfl
  rw [render_of_pieces hpieces, List.foldl_cons, List.foldl_nil, String.empty_append]

/-- **The JSON text of a table decodes back.** It is an array with one object an opcode, in order, which
    gives the position, the value, the name and the shape. The note is null just when there is none, and
    otherwise it is the note to the letter, an empty one too. -/
theorem ofText?_render_json {records : List Record} {t : Table} (hb : Table.build records = .ok t) :
    ∃ text items, Format.json.render t = .ok text ∧ Json.ofText? text = some (.array items) ∧
      items.length = t.size ∧
      ∀ (i : Nat) (e : Entry), t.toList[i]? = some e → ∃ note,
        items[i]? = some (.object
          [("ordinal", .number i), ("opcode", .number e.record.opcode.toNat),
           ("name", .string e.record.name), ("register_arity", .string e.record.shape.arity.name),
           ("sign_extension", .string e.record.shape.extension.name), ("note", note)]) ∧
        (note = .null ↔ e.record.note = none) ∧ ∀ s, note = .string s ↔ e.record.note = some s := by
  obtain ⟨h, hlen⟩ := Table.represents_of_build hb
  refine ⟨_, t.toList.map Entry.toJson, render_json t, t.ofText?_dump, List.length_map _, ?_⟩
  intro i e he
  have hordinal : e.ordinal.toNat = i := by
    rw [Table.toList, Array.getElem?_toList, h.entries] at he
    obtain ⟨r, hr, rfl⟩ := Option.map_eq_some_iff.1 he
    exact toNat_ofNat_of_getElem? hlen hr
  rw [List.getElem?_map, he, Option.map_some, Entry.toJson, hordinal]
  refine ⟨_, rfl, ?_, ?_⟩
  · cases e.record.note <;> simp
  · intro s
    cases e.record.note <;> simp

/-- Names and notes with characters that have to be escaped, the largest opcode, and a note that is empty
    beside one that is missing. -/
theorem ofText?_render_json_escapes :
    let r₀ : Record := ⟨18446744073709551615, "\"\\\x00\x1f\n", ⟨.two, .sign⟩, some "", 1⟩
    let r₁ : Record := ⟨0, "", ⟨.zero, .zero⟩, none, 1⟩
    let t := [r₀, r₁].foldl Table.push .empty
    Table.build [r₀, r₁] = .ok t ∧
      ∃ text items, Format.json.render t = .ok text ∧ Json.ofText? text = some (.array items) ∧
        items[0]? = some (.object
          [("ordinal", .number 0), ("opcode", .number 18446744073709551615),
           ("name", .string "\"\\\x00\x1f\n"), ("register_arity", .string "TwoOperandRegisters"),
           ("sign_extension", .string "SignExtend"), ("note", .string "")]) ∧
        items[1]? = some (.object
          [("ordinal", .number 1), ("opcode", .number 0), ("name", .string ""),
           ("register_arity", .string "ZeroOperandRegisters"),
           ("sign_extension", .string "ZeroExtend"), ("note", .null)]) := by
  intro r₀ r₁ t
  have hb : Table.build [r₀, r₁] = .ok t := Table.build_eq_ok_iff.2 ⟨by decide, by decide, rfl⟩
  obtain ⟨text, items, hrender, hread, -, hitems⟩ := ofText?_render_json hb
  obtain ⟨note₀, h₀, -, hnote₀⟩ := hitems 0 ⟨0, r₀⟩ rfl
  obtain ⟨note₁, h₁, hnote₁, -⟩ := hitems 1 ⟨1, r₁⟩ rfl
  obtain rfl := (hnote₀ "").2 rfl
  obtain rfl := hnote₁.2 rfl
  exact ⟨hb, text, items, hrender, hread, h₀, h₁⟩

end Format

end IsaTable
