/-
  What string literals denote.

  Between its quotes, a literal spells one character after the other. A character stands for itself, or an
  escape stands for it: a letter behind a backslash, or the digits of its code point. Whatever is quoted,
  and whichever characters are left plain, the literal can be read in one way only.

  * `Text.Spells`, `Text.Denotes`: the rules by which a literal is read.
  * `Text.Denotes.unique`: what stands between quotes denotes one text at most.
  * `Text.Enclosed`, `Text.Denotes.enclosed`: the quotes around it are the only ones that are not escaped.
  * `Text.spells_escape`, `Text.denotes_flatMap_escape`: what is written for a character, and for a text.
  * `Dispatch.display_denotes`: the literals that a generated module displays.
-/
import IsaTable.Proofs.Meaning
import IsaTable.Proofs.Trimming
import Mathlib.Algebra.Ring.Parity

namespace IsaTable

namespace Text

/-! ## The rules -/

/-- A way in which a character can be spelled between quotes. A quote, a backslash and a carriage return do not
    stand for themselves, and a code point has six digits at most. -/
inductive Spells : List Char → Char → Prop
  | plain {c : Char} : c ≠ '"' → c ≠ '\\' → c ≠ '\r' → Spells [c] c
  | short {letter c : Char} : shortEscape? letter = some c → Spells ['\\', letter] c
  | code {digits : List Char} {c : Char} : digits ≠ [] → digits.length ≤ 6 →
      valueOf? 16 digits = some c.toNat → Spells ('\\' :: 'u' :: '\x7b' :: (digits ++ ['\x7d'])) c

/-- What stands between quotes spells a text, one character after the other. -/
inductive Denotes : List Char → List Char → Prop
  | nil : Denotes [] []
  | cons {spelling body text : List Char} {c : Char} : Spells spelling c → Denotes body text →
      Denotes (spelling ++ body) (c :: text)

theorem Spells.unquoteFrom_append {spelling : List Char} {c : Char} (h : Spells spelling c)
    (rest : List Char) :
    unquoteFrom .plain (spelling ++ rest) = (unquoteFrom .plain rest).map (c :: ·) := by
  cases h with
  | plain hquote hbackslash => simp [unquoteFrom, hquote, hbackslash]
  | short hletter => simp [unquoteFrom, hletter]
  | @code digits _ hne _ hvalue =>
    have hcode : unquoteFrom (.code none) (digits ++ '\x7d' :: rest) = _ :=
      unquoteFrom_code_append rest hvalue fun hnil => absurd hnil hne
    simp [unquoteFrom, shortEscape?, hcode]

/-- Reading finds what is denoted. -/
theorem Denotes.unquoteFrom_eq {body text : List Char} (h : Denotes body text) :
    unquoteFrom .plain (body ++ ['"']) = some text := by
  induction h with
  | nil => rfl
  | cons hspells _ ih => rw [List.append_assoc, hspells.unquoteFrom_append, ih, Option.map_some]

/-- **What stands between quotes denotes one text at most.** -/
theorem Denotes.unique {body text other : List Char} (h : Denotes body text) (h' : Denotes body other) :
    other = text := by
  have hread := h'.unquoteFrom_eq
  rw [h.unquoteFrom_eq] at hread
  exact (Option.some.inj hread).symm

/-! ## Quotes -/

/-- The number of backslashes at the end of a text. -/
def endBackslashes (cs : List Char) : Nat :=
  (cs.reverse.takeWhile (· = '\\')).length

/-- The text can stand between quotes. A character is escaped if an odd number of backslashes stands in front of
    it: each quote in the text is escaped, and one behind it is not. -/
structure Enclosed (body : List Char) : Prop where
  escaped : ∀ before after, body = before ++ '"' :: after → Odd (endBackslashes before)
  closed : Even (endBackslashes body)

theorem endBackslashes_append_backslash (cs : List Char) :
    endBackslashes (cs ++ ['\\']) = endBackslashes cs + 1 := by
  simp [endBackslashes]

theorem endBackslashes_append_of_ne {c : Char} (hc : c ≠ '\\') (cs : List Char) :
    endBackslashes (cs ++ [c]) = 0 := by
  simp [endBackslashes, hc]

theorem quote_notMem_of_valueOf? {digits : List Char} {n : Nat} (h : valueOf? 16 digits = some n) :
    '"' ∉ digits := by
  intro hmem
  obtain ⟨v, hv⟩ := exists_digitValue?_of_foldlM h '"' hmem
  simp [digitValue?] at hv

/-- **One character more.** Behind an even number of backslashes, a spelled character leaves an even number, and
    a quote in its spelling stands behind an odd one. -/
theorem Spells.parity {spelling front : List Char} {c : Char} (h : Spells spelling c)
    (hfront : Even (endBackslashes front)) :
    Even (endBackslashes (front ++ spelling)) ∧
      ∀ before after, spelling = before ++ '"' :: after →
        Odd (endBackslashes (front ++ before)) := by
  cases h with
  | plain hquote hbackslash =>
    refine ⟨?_, ?_⟩
    · rw [endBackslashes_append_of_ne hbackslash]
      exact Even.zero
    intro before after hsplit
    rcases List.cons_eq_append_iff.1 hsplit with ⟨-, hcons⟩ | ⟨as, -, hnil⟩
    · exact absurd (List.cons.inj hcons).1.symm hquote
    · simp at hnil
  | @short letter _ hletter =>
    have hboth : front ++ ['\\', letter] = (front ++ ['\\']) ++ [letter] := by simp
    constructor
    · rw [hboth]
      by_cases hbackslash : letter = '\\'
      · rw [hbackslash, endBackslashes_append_backslash, endBackslashes_append_backslash]
        exact hfront.add_one.add_one
      · rw [endBackslashes_append_of_ne hbackslash]
        exact Even.zero
    · intro before after hsplit
      -- the quote is not the backslash, so it is the letter behind it
      cases before with
      | nil => simp at hsplit
      | cons b before =>
        obtain ⟨rfl, hsplit⟩ := List.cons.inj hsplit
        cases before with
        | nil =>
          rw [endBackslashes_append_backslash]
          exact hfront.add_one
        | cons b before => simp at hsplit
  | @code digits _ _ _ hvalue =>
    constructor
    · have hend : front ++ '\\' :: 'u' :: '\x7b' :: (digits ++ ['\x7d']) =
          (front ++ '\\' :: 'u' :: '\x7b' :: digits) ++ ['\x7d'] := by simp
      rw [hend, endBackslashes_append_of_ne (by decide)]
      exact Even.zero
    · intro before after hsplit
      have hmem : '"' ∈ '\\' :: 'u' :: '\x7b' :: (digits ++ ['\x7d']) := by
        rw [hsplit]
        simp
      simp [quote_notMem_of_valueOf? hvalue] at hmem

theorem Denotes.parity {body text front : List Char} (h : Denotes body text)
    (hfront : Even (endBackslashes front)) :
    Even (endBackslashes (front ++ body)) ∧
      ∀ before after, body = before ++ '"' :: after → Odd (endBackslashes (front ++ before)) := by
  induction h generalizing front with
  | nil => exact ⟨by rwa [List.append_nil], by simp⟩
  | @cons spelling body text c hspells _ ih =>
    obtain ⟨heven, hspelling⟩ := hspells.parity hfront
    obtain ⟨hend, hbody⟩ := ih heven
    rw [List.append_assoc] at hend
    refine ⟨hend, fun before after hsplit => ?_⟩
    rcases List.append_eq_append_iff.1 hsplit with ⟨between, rfl, hrest⟩ | ⟨between, hcut, hrest⟩
    · rw [← List.append_assoc]
      exact hbody between after hrest
    · -- the quote is in the spelling, or it begins what follows
      rcases List.cons_eq_append_iff.1 hrest with ⟨rfl, hnext⟩ | ⟨rest, rfl, -⟩
      · rw [List.append_nil] at hcut
        have hfirst := hbody [] after hnext
        rwa [List.append_nil, hcut] at hfirst
      · exact hspelling before rest hcut

/-- **The quotes around a literal are the only ones that are not escaped.** -/
theorem Denotes.enclosed {body text : List Char} (h : Denotes body text) : Enclosed body := by
  have hnil : Even (endBackslashes []) := Even.zero
  obtain ⟨hclosed, hescaped⟩ := h.parity hnil
  exact ⟨hescaped, hclosed⟩

/-! ## What is written -/

theorem length_numeral_le {base : Nat} (k : Nat) {n : Nat} (hn : n < base ^ (k + 1)) :
    (numeral base n).length ≤ k + 1 := by
  induction k generalizing n with
  | zero =>
    have hone : numeral base n = [digitChar n] := by
      rw [numeral, if_pos (Or.inl (by simpa using hn))]
    simp [hone]
  | succ k ih =>
    rw [numeral]
    split
    · simp
    · have hdiv : n / base < base ^ (k + 1) := Nat.div_lt_of_lt_mul (by rwa [← Nat.pow_succ'])
      have hlen := ih hdiv
      rw [List.length_append, List.length_singleton]
      omega

theorem toNat_lt_sixteen_pow (c : Char) : c.toNat < 16 ^ 6 := by
  have hvalid : c.toNat < 0xD800 ∨ 0xDFFF < c.toNat ∧ c.toNat < 0x110000 := c.valid
  omega

/-- **What is written for a character spells it,** whichever characters are plain. -/
theorem spells_escape (plain : Char → Bool) (c : Char) : Spells (escape plain c) c := by
  fun_cases escape plain c with
  | case1 | case2 | case3 | case4 | case5 | case6 =>
    subst c
    exact .short (by decide)
  | case7 _ _ hr _ hquote hbackslash => exact .plain hquote hbackslash hr
  | case8 =>
    exact .code (numeral_ne_nil 16 _) (length_numeral_le 5 (toNat_lt_sixteen_pow c))
      (valueOf?_numeral (by decide) (by decide) _)

theorem denotes_flatMap_escape (plain : Char → Bool) (text : List Char) :
    Denotes (text.flatMap (escape plain)) text := by
  induction text with
  | nil => exact .nil
  | cons c text ih => exact .cons (spells_escape plain c) ih

theorem quote_inj {plain plain' : Char → Bool} {text other : List Char}
    (h : quote plain' other = quote plain text) : other = text := by
  have hread := unquote?_quote plain' other
  rw [h, unquote?_quote] at hread
  exact (Option.some.inj hread).symm

end Text

/-! ## Generated modules -/

namespace Dispatch

/-- The text of a rendered module ends with what its variants display. -/
theorem exists_append_of_render {style : DispatchStyle} {t : Table} {text : String}
    (h : (Format.rust style).render t = .ok text) :
    ∃ before, text = before ++ String.join ((labelsStart style.enumName ++
      (t.toList.map fun e => labelLine style.enumName (e.variant, style.label ++ e.record.name)) ++
      ending).map (· ++ "\n")) := by
  obtain ⟨m, hm, rfl⟩ := Format.render_rust_eq_ok_iff.1 h
  obtain ⟨-, rfl⟩ := ofTable_eq_ok_iff.1 hm
  have hlabels : (ofEntries style t.toList).labels.map (labelLine style.enumName) =
      t.toList.map fun e => labelLine style.enumName (e.variant, style.label ++ e.record.name) :=
    List.map_map
  have hgroup (front a b c : List String) : front ++ a ++ b ++ c = front ++ (a ++ b ++ c) := by
    simp only [List.append_assoc]
  obtain ⟨front, hlines⟩ : ∃ front, (ofEntries style t.toList).lines =
      front ++ (labelsStart style.enumName ++ (ofEntries style t.toList).labels.map
        (labelLine style.enumName) ++ ending) := ⟨_, hgroup _ _ _ _⟩
  refine ⟨String.join (front.map (· ++ "\n")), ?_⟩
  rw [← hlabels, ← String.join_append, ← List.map_append, ← hlines]
  rfl

/-- **Displayed literals denote the displayed texts.** In a rendered module, the arm of each opcode displays a
    literal. Whatever its label and its name are, and whichever characters are plain, that literal stands
    between double quotes, and there is no other one that is not escaped, and no line end. Read by the rules
    for literals it denotes the label with the name behind it, and nothing else; so the literals of different
    texts differ. -/
theorem display_denotes (plain : Char → Bool) (style : DispatchStyle) (t : Table) :
    (∀ text, (Format.rust style).render t = .ok text →
      ∃ before, text = before ++ String.join ((labelsStart style.enumName ++
        (t.toList.map fun e => "            " ++ qualified style.enumName e.variant ++ " => " ++
          String.ofList (Text.quote Text.isPlain (style.label ++ e.record.name).toList) ++ ",") ++
        ending).map (· ++ "\n"))) ∧
    ∀ name : String, ∃ body,
      Text.quote plain (style.label ++ name).toList = '"' :: (body ++ ['"']) ∧
      Text.Enclosed body ∧ '\n' ∉ body ∧ '\r' ∉ body ∧
      Text.Denotes body (style.label.toList ++ name.toList) ∧
      (∀ other, Text.Denotes body other → other = style.label.toList ++ name.toList) ∧
      ∀ plain' other, Text.quote plain' other = Text.quote plain (style.label ++ name).toList →
        other = style.label.toList ++ name.toList := by
  refine ⟨fun text => exists_append_of_render, fun name => ?_⟩
  rw [String.toList_append]
  have hdenotes := Text.denotes_flatMap_escape plain (style.label.toList ++ name.toList)
  obtain ⟨hn, hr⟩ := Text.isLine_ofList.1 (Text.isLine_quote plain (style.label.toList ++ name.toList))
  refine ⟨_, rfl, hdenotes.enclosed, ?_, ?_, hdenotes, fun other => hdenotes.unique, ?_⟩
  · intro hmem
    exact hn (List.mem_cons_of_mem _ (List.mem_append_left _ hmem))
  · intro hmem
    exact hr (List.mem_cons_of_mem _ (List.mem_append_left _ hmem))
  · intro plain' other
    exact Text.quote_inj

end Dispatch

end IsaTable
