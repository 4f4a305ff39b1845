/-
  Text around which blanks stand, and text around which none do.

  * `trim_append_blank`, `trim_blank_append`: blanks at the end, or at the start, are trimmed away.
  * `head?_trim`, `trim_eq_self`: text that begins with no blank, and text that holds none.
  * `isBlank_of_isNameRest`, `isBlank_of_ofLiteral?`: names and literals hold no blanks.
  * `Dialect.isData_dropReturn`, `Dialect.readRow_dropReturn`: a carriage return at the end of a line
    does not matter.
-/
import IsaTable.Proofs.Lines
import IsaTable.Proofs.Words
import IsaTable.Spec.Row

namespace IsaTable

namespace Text

/-! ## Trimming -/

section
variable {c : Char} {cs bs : List Char}

theorem trimEnd_append_blank (h : ∀ b ∈ bs, isBlank b = true) : trimEnd (cs ++ bs) = trimEnd cs := by
  have hnil : bs.reverse.dropWhile isBlank = [] :=
    trimStart_eq_nil_iff.2 fun b hb => h b (List.mem_reverse.1 hb)
  rw [trimEnd, List.reverse_append, List.dropWhile_append, hnil]
  rfl

/-- **Blanks at the end are trimmed away.** -/
theorem trim_append_blank (h : ∀ b ∈ bs, isBlank b = true) : trim (cs ++ bs) = trim cs := by
  by_cases hcs : ∀ c ∈ cs, isBlank c = true
  · rw [trim_eq_nil_iff.2 hcs, trim_eq_nil_iff]
    exact List.forall_mem_append.2 ⟨hcs, h⟩
  · have hne : (cs.dropWhile isBlank).isEmpty = false := by
      rw [List.isEmpty_eq_false_iff]
      exact mt trimStart_eq_nil_iff.1 hcs
    have hstart : trimStart (cs ++ bs) = trimStart cs ++ bs := by
      rw [trimStart, List.dropWhile_append, hne]
      rfl
    rw [trim, hstart, trimEnd_append_blank h, trim]

theorem trim_blank_append (h : ∀ b ∈ bs, isBlank b = true) : trim (bs ++ cs) = trim cs := by
  have hstart : trimStart (bs ++ cs) = trimStart cs := List.dropWhile_append_of_pos h
  rw [trim, hstart, trim]

theorem trimStart_cons (hc : isBlank c = false) : trimStart (c :: cs) = c :: cs := by
  rw [trimStart, List.dropWhile_cons_of_neg (by simp [hc])]

/-- What is not trimmed at the start is not trimmed at the end up to there. -/
theorem trimEnd_cons (hc : isBlank c = false) : trimEnd (c :: cs) = c :: trimEnd cs := by
  rw [trimEnd, List.reverse_cons, List.dropWhile_append]
  split
  · next hnil =>
    rw [trimEnd, List.isEmpty_iff.1 hnil, List.dropWhile_cons_of_neg (by simp [hc])]
    rfl
  · rw [List.reverse_append, trimEnd]
    rfl

theorem trim_cons (hc : isBlank c = false) : trim (c :: cs) = c :: trimEnd cs := by
  rw [trim, trimStart_cons hc, trimEnd_cons hc]

theorem head?_trim (h : cs.head? = some c) (hc : isBlank c = false) :
    (trim cs).head? = some c := by
  obtain ⟨rest, rfl⟩ := List.head?_eq_some_iff.1 h
  rw [trim_cons hc]
  rfl

/-- Text without blanks is left as it is. -/
theorem trim_eq_self (h : ∀ c ∈ cs, isBlank c = false) : trim cs = cs := by
  have hend : ∀ ds : List Char, (∀ c ∈ ds, isBlank c = false) → trimEnd ds = ds := by
    intro ds hds
    induction ds with
    | nil => rfl
    | cons d ds ih =>
      obtain ⟨hd, hds⟩ := List.forall_mem_cons.1 hds
      rw [trimEnd_cons hd, ih hds]
  cases cs with
  | nil => rfl
  | cons c cs =>
    obtain ⟨hc, hcs⟩ := List.forall_mem_cons.1 h
    rw [trim_cons hc, hend cs hcs]

end

/-! ## Names and literals -/

/-- Text can be searched for blanks. -/
theorem isBlank_of_any {cs : List Char} (h : cs.any isBlank = false) :
    ∀ c ∈ cs, isBlank c = false :=
  fun c hc => Bool.eq_false_iff.2 (List.any_eq_false.1 h c hc)

/-- The visible characters of ASCII are no blanks. -/
theorem isBlank_of_visible {c : Char} (h : 0x21 ≤ c.toNat) (h' : c.toNat ≤ 0x7E) :
    isBlank c = false := by
  simp only [isBlank, Bool.or_eq_false_iff, Bool.and_eq_false_iff, decide_eq_false_iff_not]
  omega

theorem isBlank_of_isNameRest {c : Char} (h : isNameRest c = true) : isBlank c = false := by
  have hclass : (c.isUpper || c.isLower || c.isDigit || decide (c = '_')) = true := h
  simp only [Bool.or_eq_true, decide_eq_true_eq] at hclass
  rcases hclass with ((hupper | hlower) | hdigit) | rfl
  · have hrange : 65 ≤ c.toNat ∧ c.toNat ≤ 90 := of_decide_eq_true hupper
    exact isBlank_of_visible (by omega) (by omega)
  · obtain ⟨hlo, hhi⟩ := Bool.and_eq_true_iff.1 hlower
    have hlo : 97 ≤ c.toNat := of_decide_eq_true hlo
    have hhi : c.toNat ≤ 122 := of_decide_eq_true hhi
    exact isBlank_of_visible (by omega) (by omega)
  · obtain ⟨hlo, hhi⟩ := Bool.and_eq_true_iff.1 hdigit
    have hlo : 48 ≤ c.toNat := of_decide_eq_true hlo
    have hhi : c.toNat ≤ 57 := of_decide_eq_true hhi
    exact isBlank_of_visible (by omega) (by omega)
  · decide

theorem isBlank_of_digitValue? {base v : Nat} {c : Char} (h : digitValue? base c = some v) :
    isBlank c = false := by
  obtain ⟨hvalue, -⟩ := Option.filter_eq_some_iff.1 h
  split at hvalue
  · exact isBlank_of_visible (by omega) (by omega)
  split at hvalue
  · exact isBlank_of_visible (by omega) (by omega)
  split at hvalue
  · exact isBlank_of_visible (by omega) (by omega)
  · cases hvalue

/-- Digits that denote a number are digits of its base. -/
theorem exists_digitValue?_of_foldlM {base acc n : Nat} {digits : List Char}
    (h : digits.foldlM (appendDigit? base) acc = some n) :
    ∀ c ∈ digits, ∃ v, digitValue? base c = some v := by
  induction digits generalizing acc with
  | nil => simp
  | cons c cs ih =>
    obtain ⟨next, hnext, hrest⟩ : ∃ next, appendDigit? base acc c = some next ∧
        cs.foldlM (appendDigit? base) next = some n := by
      simpa [Option.bind_eq_some_iff] using h
    obtain ⟨v, hv, -⟩ := Option.map_eq_some_iff.1 hnext
    exact List.forall_mem_cons.2 ⟨⟨v, hv⟩, ih hrest⟩

end Text

namespace Opcode

/-- A literal consists of its digits, behind a mark of their base unless that is ten. -/
theorem eq_of_radix {cs digits : List Char} {base : Nat} (h : radix cs = (base, digits)) :
    cs = digits ∨ ∃ mark ∈ ['x', 'X', 'b', 'B'], cs = '0' :: mark :: digits := by
  unfold radix at h
  split at h
  all_goals cases h
  · exact Or.inr ⟨_, by decide, rfl⟩
  · exact Or.inr ⟨_, by decide, rfl⟩
  · exact Or.inr ⟨_, by decide, rfl⟩
  · exact Or.inr ⟨_, by decide, rfl⟩
  · exact Or.inl rfl

/-- A literal is not empty and holds no blanks. -/
theorem isBlank_of_ofLiteral? {token : String} {opcode : Opcode}
    (h : ofLiteral? token = some opcode) :
    token.toList ≠ [] ∧ ∀ c ∈ token.toList, Text.isBlank c = false := by
  obtain ⟨base, digits, hradix⟩ : ∃ base digits, radix token.toList = (base, digits) := ⟨_, _, rfl⟩
  simp only [ofLiteral?, hradix] at h
  split at h
  · cases h
  next hne =>
  obtain ⟨n, hn, -⟩ := Option.bind_eq_some_iff.1 h
  have hdigits : ∀ c ∈ digits, Text.isBlank c = false := by
    intro c hc
    obtain ⟨v, hv⟩ := Text.exists_digitValue?_of_foldlM hn c hc
    exact Text.isBlank_of_digitValue? hv
  rcases eq_of_radix hradix with htoken | ⟨mark, hmark, htoken⟩
  · rw [htoken]
    exact ⟨hne, hdigits⟩
  · have hblank : Text.isBlank mark = false := Text.isBlank_of_any (by decide) mark hmark
    rw [htoken]
    refine ⟨List.cons_ne_nil _ _, ?_⟩
    exact List.forall_mem_cons.2 ⟨by decide, List.forall_mem_cons.2 ⟨hblank, hdigits⟩⟩

end Opcode

/-! ## Carriage returns -/

/-- A character that does not separate goes to the end of the last field. -/
theorem splitOn_append_singleton {d b : Char} (hb : b ≠ d) (cs : List Char) :
    ∃ init last, cs.splitOn d = init ++ [last] ∧ (cs ++ [b]).splitOn d = init ++ [last ++ [b]] := by
  induction cs with
  | nil => exact ⟨[], [], rfl, List.splitOn_eq_singleton (by simpa using Ne.symm hb)⟩
  | cons c cs ih =>
    obtain ⟨init, last, hcs, hcsb⟩ := ih
    rw [List.cons_append, List.splitOn_cons_eq_if_modifyHead, List.splitOn_cons_eq_if_modifyHead,
      hcs, hcsb]
    split
    · exact ⟨[] :: init, last, rfl, rfl⟩
    · cases init with
      | nil => exact ⟨[], c :: last, rfl, rfl⟩
      | cons first init => exact ⟨(c :: first) :: init, last, rfl, rfl⟩

namespace Dialect

variable {d : Dialect}

/-- A blank at the end of a row does not matter unless it separates fields. -/
theorem fields_append_blank {b : Char} (hb : Text.isBlank b = true) (hd : b ≠ d.delimiter)
    (cs : List Char) : d.fields (cs ++ [b]) = d.fields cs := by
  obtain ⟨init, last, hcs, hcsb⟩ := splitOn_append_singleton hd cs
  have hlast : Text.trim (last ++ [b]) = Text.trim last :=
    Text.trim_append_blank (List.forall_mem_singleton.2 hb)
  rw [fields, fields, hcs, hcsb]
  simp [hlast]

theorem trim_dropReturn (l : List Char) : Text.trim (Text.dropReturn l) = Text.trim l := by
  rcases Text.dropReturn_cases l with ⟨m, rfl, hm⟩ | ⟨-, hl⟩
  · rw [hm, Text.trim_append_blank (List.forall_mem_singleton.2 (by decide))]
  · rw [hl]

/-- **A carriage return at the end of a line does not matter** for what kind of line it is. -/
theorem isData_dropReturn (l : List Char) : d.isData (Text.dropReturn l) = d.isData l := by
  rw [isData, isData, isBlankLine, isBlankLine, isComment, isComment, trim_dropReturn]

/-- Nor does it matter for the row, unless carriage returns separate fields. -/
theorem readRow_dropReturn (hd : d.delimiter ≠ '\r') (line : Nat) (l : List Char) :
    d.readRow line (Text.dropReturn l) = d.readRow line l := by
  have hfields : d.fields (Text.dropReturn l) = d.fields l := by
    rcases Text.dropReturn_cases l with ⟨m, rfl, hm⟩ | ⟨-, hl⟩
    · rw [hm, fields_append_blank (by decide) hd.symm]
    · rw [hl]
  rw [readRow, readRow, hfields]

end Dialect

end IsaTable
