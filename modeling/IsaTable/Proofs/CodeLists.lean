/-
  The layout of code lists.

  Each code takes four characters, and a line ends behind a code just when a multiple of the line's width is
  reached. So the place of each code and of each line end is known, and the codes tell the decode shapes.
  A list that is written without line ends has lines of width zero: zero divides no positive number, and a
  number divided by zero is zero with itself as its rest.

  * `CodeList.readBlock?`, `CodeList.readBlock?_block`: four characters as a decode shape.
  * `CodeList.chars_append_singleton`: one more code.
  * `CodeList.offset`, `CodeList.length_chars`: where a code begins.
  * `CodeList.getElem?_chars_eq_newline_iff`, `CodeList.exists_lines`: where the lines end, and the lines.
  * `Format.render_onikiri_layout`: the text of a code list.
-/
import IsaTable.Proofs.Rendering
import IsaTable.Text.Lines
import Mathlib.Data.List.Induction

namespace IsaTable

namespace CodeList

/-! ## Codes -/

/-- The code of a shape with the comma and the space that follow it. -/
def block (s : Shape) : List Char :=
  s.code.toList ++ [',', ' ']

/-- The shape that four characters stand for: the letter of its arity, a letter that tells whether the
    immediate is signed, a comma and a space. -/
def readBlock? : List Char → Option Shape
  | [letter, sign, ',', ' '] =>
    (Arity.ofToken? (String.singleton letter)).bind fun arity =>
      if sign = 'S' then some ⟨arity, .sign⟩
      else if sign = 'U' then some ⟨arity, .zero⟩
      else none
  | _ => none

theorem length_block (s : Shape) : (block s).length = 4 := by
  obtain ⟨arity, extension⟩ := s
  cases arity <;> cases extension <;> rfl

theorem newline_notMem_block (s : Shape) : '\n' ∉ block s := by
  obtain ⟨arity, extension⟩ := s
  cases arity <;> cases extension <;> decide

/-- **A code tells its shape.** -/
theorem readBlock?_block (s : Shape) : readBlock? (block s) = some s := by
  obtain ⟨arity, extension⟩ := s
  cases arity <;> cases extension <;> rfl

theorem readBlock?_getD (s? : Option Shape) : readBlock? ((s?.map block).getD []) = s? := by
  cases s? with
  | none => rfl
  | some s => exact readBlock?_block s

/-! ## Texts -/

/-- The text of a code list for given shapes. -/
def chars (perLine : Nat) (shapes : List Shape) : List Char :=
  shapes.zipIdx.flatMap fun (shape, position) => (piece perLine position shape).toList

/-- The position behind so many codes, with the line ends among them. -/
def offset (perLine count : Nat) : Nat :=
  4 * count + count / perLine

variable {perLine : Nat} {ss : List Shape} {s : Shape}

theorem toList_join_pieces (perLine : Nat) (t : Table) :
    (String.join (pieces perLine t)).toList = chars perLine (t.toList.map (·.record.shape)) := by
  rw [String.toList_join, pieces, chars, List.zipIdx_map, List.flatMap_map, List.flatMap_map]
  rfl

theorem toList_piece (perLine position : Nat) (s : Shape) :
    (piece perLine position s).toList = block s ++ if perLine ∣ position + 1 then ['\n'] else [] := by
  have hends : (perLine ≠ 0 ∧ (position + 1) % perLine = 0) ↔ perLine ∣ position + 1 := by
    rw [← Nat.dvd_iff_mod_eq_zero]
    refine and_iff_right_of_imp ?_
    rintro hdvd rfl
    exact absurd (Nat.zero_dvd.1 hdvd) (by omega)
  simp only [piece, hends, String.toList_append, block]
  split <;> rfl

theorem chars_append (perLine : Nat) (as bs : List Shape) :
    ∃ rest, chars perLine (as ++ bs) = chars perLine as ++ rest := by
  rw [chars, List.zipIdx_append, List.flatMap_append]
  exact ⟨_, rfl⟩

/-- **One more code,** and perhaps a line end. -/
theorem chars_append_singleton :
    chars perLine (ss ++ [s]) =
      chars perLine ss ++ (block s ++ if perLine ∣ ss.length + 1 then ['\n'] else []) := by
  rw [chars, List.zipIdx_append, List.flatMap_append, ← toList_piece]
  simp [chars]

theorem offset_succ (perLine count : Nat) :
    offset perLine (count + 1) = offset perLine count + (4 + if perLine ∣ count + 1 then 1 else 0) := by
  rw [offset, offset, Nat.succ_div]
  omega

theorem length_chars : (chars perLine ss).length = offset perLine ss.length := by
  induction ss using List.reverseRecOn with
  | nil => simp [chars, offset]
  | append_singleton ss s ih =>
    rw [chars_append_singleton, List.length_append, List.length_append, ih, length_block,
      List.length_append, List.length_singleton, offset_succ]
    split <;> rfl

/-- Without line ends, the text is that of the codes. -/
theorem filter_chars : (chars perLine ss).filter (· ≠ '\n') = ss.flatMap block := by
  induction ss using List.reverseRecOn with
  | nil => rfl
  | append_singleton ss s ih =>
    have hblock : (block s).filter (· ≠ '\n') = block s := by
      rw [List.filter_eq_self]
      intro c hc
      have hne : c ≠ '\n' := fun h => newline_notMem_block s (h ▸ hc)
      simp [hne]
    rw [chars_append_singleton, List.filter_append, List.filter_append, ih, hblock, List.flatMap_append]
    split <;> simp

theorem newline_notMem_flatMap_block : '\n' ∉ ss.flatMap block := by
  intro hmem
  obtain ⟨s, -, hs⟩ := List.mem_flatMap.1 hmem
  exact newline_notMem_block s hs

theorem chars_zero : chars 0 ss = ss.flatMap block := by
  induction ss using List.reverseRecOn with
  | nil => rfl
  | append_singleton ss s ih =>
    rw [chars_append_singleton, ih, List.flatMap_append, if_neg (by simp)]
    simp

/-- **The code of each opcode stands at its offset.** -/
theorem take_drop_chars (i : Nat) :
    ((chars perLine ss).drop (offset perLine i)).take 4 = (ss[i]?.map block).getD [] := by
  rcases Nat.lt_or_ge i ss.length with hi | hi
  · -- cut the shapes in front of this one and behind it
    have hss : ss = (ss.take i ++ [ss[i]]) ++ ss.drop (i + 1) := by
      rw [List.append_assoc, List.singleton_append, ← List.drop_eq_getElem_cons, List.take_append_drop]
    have hlen : (chars perLine (ss.take i)).length = offset perLine i := by
      rw [length_chars, List.length_take_of_le (by omega)]
    obtain ⟨rest, hrest⟩ := chars_append perLine (ss.take i ++ [ss[i]]) (ss.drop (i + 1))
    rw [← hss, chars_append_singleton, List.append_assoc, List.append_assoc] at hrest
    rw [hrest, List.drop_left' hlen, List.take_left' (length_block _), List.getElem?_eq_getElem hi]
    rfl
  · have hlen : (chars perLine ss).length ≤ offset perLine i := by
      rw [length_chars, offset, offset]
      exact Nat.add_le_add (by omega) (Nat.div_le_div_right hi)
    rw [List.drop_of_length_le hlen, List.getElem?_eq_none hi]
    rfl

/-! ## Line ends -/

/-- Of a code and what follows it, only a line end behind it is one. -/
theorem getElem?_block_append_eq_newline_iff {ends : Prop} [Decidable ends] {q : Nat} :
    (block s ++ if ends then ['\n'] else [])[q]? = some '\n' ↔ ends ∧ q = 4 := by
  rcases Nat.lt_or_ge q 4 with hq | hq
  · rw [List.getElem?_append_left (by rwa [length_block])]
    refine iff_of_false (fun h => newline_notMem_block s (List.mem_of_getElem? h)) ?_
    rintro ⟨-, rfl⟩
    omega
  · rw [List.getElem?_append_right (by rwa [length_block]), length_block]
    split
    · next hends =>
      have hzero : q - 4 = 0 ↔ q = 4 := by omega
      simp [hends, List.getElem?_singleton, hzero]
    · next hends => simp [hends]

/-- **A line ends behind a code just when a multiple of its width is reached,** and nowhere else. -/
theorem getElem?_chars_eq_newline_iff {p : Nat} :
    (chars perLine ss)[p]? = some '\n' ↔
      ∃ i < ss.length, perLine ∣ i + 1 ∧ p = offset perLine i + 4 := by
  induction ss using List.reverseRecOn with
  | nil => simp [chars]
  | append_singleton ss s ih =>
    have hlen : (chars perLine ss).length = offset perLine ss.length := length_chars
    rw [chars_append_singleton, List.length_append, List.length_singleton, Nat.exists_lt_succ_right, ← ih]
    rcases Nat.lt_or_ge p (offset perLine ss.length) with hp | hp
    · rw [List.getElem?_append_left (by omega)]
      refine (or_iff_left ?_).symm
      rintro ⟨-, rfl⟩
      omega
    · have hnone : (chars perLine ss)[p]? = none := List.getElem?_eq_none (by omega)
      rw [List.getElem?_append_right (by omega), getElem?_block_append_eq_newline_iff, hlen, hnone]
      refine Iff.trans (and_congr_right fun _ => ?_) (or_iff_right (by simp)).symm
      omega

theorem count_newline_chars : (chars perLine ss).count '\n' = ss.length / perLine := by
  induction ss using List.reverseRecOn with
  | nil => simp [chars]
  | append_singleton ss s ih =>
    rw [chars_append_singleton, List.count_append, List.count_append, ih,
      List.count_eq_zero.2 (newline_notMem_block s), List.length_append, List.length_singleton, Nat.succ_div]
    split <;> simp

/-- **The lines of a code list.** Each line that ends has as many codes as the width says, and the rest has
    fewer. -/
theorem exists_lines (perLine : Nat) (ss : List Shape) :
    ∃ ls rest, chars perLine ss = Text.unlines ls ++ rest ∧ ss.flatMap block = ls.flatten ++ rest ∧
      ls.length = ss.length / perLine ∧ (∀ l ∈ ls, l.length = 4 * perLine) ∧
      rest.length = 4 * (ss.length % perLine) := by
  induction ss using List.reverseRecOn with
  | nil => exact ⟨[], [], rfl, rfl, by simp, by simp, by simp⟩
  | append_singleton ss s ih =>
    obtain ⟨ls, rest, htext, hflat, hlen, hls, hrest⟩ := ih
    have hdiv : (ss.length + 1) / perLine = _ := Nat.succ_div
    have hmod := Nat.div_add_mod ss.length perLine
    have hmod' := Nat.div_add_mod (ss.length + 1) perLine
    have hline : (rest ++ block s).length = 4 * (ss.length % perLine + 1) := by
      rw [List.length_append, hrest, length_block, Nat.mul_succ]
    rw [chars_append_singleton, htext, List.flatMap_append, hflat, List.flatMap_singleton,
      List.length_append, List.length_singleton]
    by_cases hends : perLine ∣ ss.length + 1
    · -- with this code the rest becomes a line
      rw [if_pos hends] at hdiv ⊢
      rw [hdiv, Nat.mul_succ, Nat.mod_eq_zero_of_dvd hends] at hmod'
      have hfull : ss.length % perLine + 1 = perLine := by omega
      refine ⟨ls ++ [rest ++ block s], [], ?_, ?_, ?_, ?_, ?_⟩
      · simp [Text.unlines]
      · simp
      · rw [List.length_append, List.length_singleton, hlen, hdiv]
      · intro l hl
        rcases List.mem_append.1 hl with hl | hl
        · exact hls l hl
        · rw [List.mem_singleton.1 hl, hline, hfull]
      · rw [Nat.mod_eq_zero_of_dvd hends]
        rfl
    · rw [if_neg hends] at hdiv ⊢
      rw [hdiv, Nat.add_zero] at hmod'
      have hnext : ss.length % perLine + 1 = (ss.length + 1) % perLine := by omega
      refine ⟨ls, rest ++ block s, ?_, ?_, ?_, hls, ?_⟩
      · simp
      · simp
      · rw [hlen, hdiv]
        rfl
      · rw [hline, hnext]

end CodeList

/-- **The layout of a code list.** Without its line ends, the text is the one that is written without any. That
    one consists of blocks of four characters, one for each opcode; a block is read as the shape of its opcode,
    and opcodes have the same block just when they have the same shape. With line ends, the block of each
    opcode is found behind those before it and the line ends among them. A line ends directly behind a block
    just when its number, counted from one, is a multiple of the width, and nowhere else. So the lines that end
    have as many codes as the width says, there are as many as fit, and the codes that are left stand in a rest
    without an end. -/
theorem Format.render_onikiri_layout (t : Table) (perLine : Nat) :
    ∃ text flat : String,
      (Format.onikiri perLine).render t = .ok text ∧ (Format.onikiri 0).render t = .ok flat ∧
      text.toList.filter (· ≠ '\n') = flat.toList ∧ '\n' ∉ flat.toList ∧
      flat.toList.length = 4 * t.size ∧
      (∀ i, CodeList.readBlock? ((flat.toList.drop (4 * i)).take 4) = t.toList[i]?.map (·.record.shape)) ∧
      (∀ i j, (flat.toList.drop (4 * i)).take 4 = (flat.toList.drop (4 * j)).take 4 ↔
        t.toList[i]?.map (·.record.shape) = t.toList[j]?.map (·.record.shape)) ∧
      (∀ i, (text.toList.drop (4 * i + i / perLine)).take 4 = (flat.toList.drop (4 * i)).take 4) ∧
      (∀ p, text.toList[p]? = some '\n' ↔
        ∃ i < t.size, perLine ∣ i + 1 ∧ p = 4 * i + i / perLine + 4) ∧
      text.toList.count '\n' = t.size / perLine ∧
      ∃ ls rest, text.toList = Text.unlines ls ++ rest ∧ flat.toList = ls.flatten ++ rest ∧
        ls.length = t.size / perLine ∧ (∀ l ∈ ls, l.length = 4 * perLine) ∧
        rest.length = 4 * (t.size % perLine) := by
  let ss := t.toList.map (·.record.shape)
  have hsize : ss.length = t.size := List.length_map _
  have htext (k : Nat) : (Format.onikiri k).render t = .ok (String.join (CodeList.pieces k t)) :=
    render_of_pieces rfl
  have hchars (k : Nat) : (String.join (CodeList.pieces k t)).toList = CodeList.chars k ss :=
    CodeList.toList_join_pieces k t
  have hblock (k i : Nat) : ((CodeList.chars k ss).drop (4 * i + i / k)).take 4 =
      (ss[i]?.map CodeList.block).getD [] := CodeList.take_drop_chars i
  have hflat (i : Nat) : ((CodeList.chars 0 ss).drop (4 * i)).take 4 =
      (ss[i]?.map CodeList.block).getD [] := by
    have hzero := hblock 0 i
    rwa [Nat.div_zero, Nat.add_zero] at hzero
  have hshape (i : Nat) : ss[i]? = t.toList[i]?.map (·.record.shape) := List.getElem?_map
  have hread (i : Nat) : CodeList.readBlock? (((CodeList.chars 0 ss).drop (4 * i)).take 4) =
      t.toList[i]?.map (·.record.shape) := by
    rw [hflat, CodeList.readBlock?_getD, hshape]
  refine ⟨_, _, htext perLine, htext 0, ?_⟩
  rw [hchars, hchars, ← hsize]
  refine ⟨?_, ?_, ?_, hread, ?_, ?_, ?_, ?_, ?_⟩
  · rw [CodeList.filter_chars, CodeList.chars_zero]
  · rw [CodeList.chars_zero]
    exact CodeList.newline_notMem_flatMap_block
  · rw [CodeList.length_chars, CodeList.offset, Nat.div_zero, Nat.add_zero]
  · intro i j
    constructor
    · intro hsame
      rw [← hread, hsame, hread]
    · intro hsame
      rw [hflat, hflat, hshape, hshape, hsame]
  · intro i
    rw [hblock, hflat]
  · intro p
    exact CodeList.getElem?_chars_eq_newline_iff
  · exact CodeList.count_newline_chars
  · rw [CodeList.chars_zero]
    exact CodeList.exists_lines perLine ss

end IsaTable
