/-
  Words and lines: texts in which separators do not occur.

  * `IsWord`: a text without blanks, commas and line ends, as identifiers are.
  * `isWord_of_isName`, `isWord_numeral`: names and numerals are words.
  * `IsLine`: a text without line ends. Words are lines, and so are string literals, whatever they
    denote.
-/
import IsaTable.Opcode.Name
import IsaTable.Text.Quoted

namespace IsaTable.Text

/-- The characters between the words of a generated module. -/
def separators : List Char :=
  [' ', ',', '\n', '\r']

/-- A text in which no separator occurs. Every identifier is one. -/
def IsWord (s : String) : Prop :=
  ∀ c ∈ separators, c ∉ s.toList

/-- A text without line ends. -/
def IsLine (s : String) : Prop :=
  '\n' ∉ s.toList ∧ '\r' ∉ s.toList

instance (s : String) : Decidable (IsWord s) :=
  List.decidableBAll (· ∉ s.toList) separators

instance (s : String) : Decidable (IsLine s) :=
  inferInstanceAs (Decidable (_ ∧ _))

-- Applied to a string literal, this compares its characters without decoding it.
theorem isLine_ofList {cs : List Char} :
    IsLine (String.ofList cs) ↔ '\n' ∉ cs ∧ '\r' ∉ cs := by
  rw [IsLine, String.toList_ofList]

theorem IsWord.isLine {s : String} (h : IsWord s) : IsLine s :=
  ⟨h _ (by decide), h _ (by decide)⟩

theorem IsWord.append {s t : String} (hs : IsWord s) (ht : IsWord t) : IsWord (s ++ t) := by
  intro c hc
  rw [String.toList_append, List.mem_append, not_or]
  exact ⟨hs c hc, ht c hc⟩

theorem IsLine.append {s t : String} (hs : IsLine s) (ht : IsLine t) : IsLine (s ++ t) := by
  simp only [IsLine, String.toList_append, List.mem_append, not_or]
  exact ⟨⟨hs.1, ht.1⟩, hs.2, ht.2⟩

theorem IsLine.wrap {s t u : String} (hs : IsLine s) (ht : IsLine t) (hu : IsLine u) :
    IsLine (s ++ t ++ u) :=
  (hs.append ht).append hu

theorem IsLine.intercalate {sep : String} {parts : List String} (hsep : IsLine sep)
    (h : ∀ part ∈ parts, IsLine part) : IsLine (sep.intercalate parts) := by
  induction parts with
  | nil =>
    rw [String.intercalate_nil]
    decide
  | cons part parts ih =>
    obtain ⟨hpart, hparts⟩ := List.forall_mem_cons.1 h
    cases parts with
    | nil => rwa [String.intercalate_singleton]
    | cons next parts =>
      rw [String.intercalate_cons_cons]
      exact hpart.wrap hsep (ih hparts)

theorem isWord_numeral {base : Nat} (hb : 2 ≤ base) (hb' : base ≤ 36) (n : Nat) :
    IsWord (String.ofList (numeral base n)) := by
  have hdigit : ∀ d < 36, digitChar d ∉ separators := by decide
  intro c hs hc
  rw [String.toList_ofList] at hc
  obtain ⟨d, hd, rfl⟩ := exists_digit_of_mem_numeral hb hc
  exact hdigit d (by omega) hs

theorem isWord_decimal (n : Nat) : IsWord (decimal n) :=
  isWord_numeral (by decide) (by decide) n

theorem isWord_hex (n : Nat) : IsWord (hex n) :=
  IsWord.append (by decide) (isWord_numeral (by decide) (by decide) n)

/-- A name consists of characters of names. -/
theorem isNameRest_of_mem {s : String} (h : isName s = true) :
    ∀ c ∈ s.toList, isNameRest c = true := by
  have hstart {c : Char} (hc : isNameStart c = true) : isNameRest c = true := by
    simp only [isNameStart, isNameRest, Char.isAlphanum, Bool.or_eq_true] at hc ⊢
    exact hc.imp Or.inl id
  rw [isName] at h
  cases hs : s.toList with
  | nil => simp
  | cons c cs =>
    simp only [hs, Bool.and_eq_true, List.all_eq_true] at h
    exact List.forall_mem_cons.2 ⟨hstart h.1, h.2⟩

theorem isWord_of_isName {s : String} (h : isName s = true) : IsWord s := by
  have hseparator : separators.all (!isNameRest ·) = true := by decide
  intro c hs hc
  have hno := List.all_eq_true.1 hseparator c hs
  rw [isNameRest_of_mem h c hc] at hno
  cases hno

/-! ## String literals -/

/-- What is written for a character holds no line end. -/
theorem isLine_escape (plain : Char → Bool) (c : Char) :
    IsLine (String.ofList (escape plain c)) := by
  rw [isLine_ofList]
  fun_cases escape plain c with
  | case1 | case2 | case3 | case4 | case5 | case6 => decide
  | case7 _ _ hr hn =>
    rw [List.mem_singleton, List.mem_singleton]
    exact ⟨fun h => hn h.symm, fun h => hr h.symm⟩
  | case8 =>
    have hcode : IsWord (String.ofList (numeral 16 c.toNat)) :=
      isWord_numeral (by decide) (by decide) c.toNat
    simp [escapeCode, isLine_ofList.1 hcode.isLine]

theorem isLine_quote (plain : Char → Bool) (text : List Char) :
    IsLine (String.ofList (quote plain text)) := by
  have hescape (c : Char) := isLine_ofList.1 (isLine_escape plain c)
  rw [isLine_ofList]
  simp [quote, hescape]

end IsaTable.Text
