/-
  What an opcode literal denotes.

  A literal is the mark of a base and a run of digits of that base. It denotes the number that the digits
  have as a positional numeral, and it is read just when that number is a word.

  * `Base`, `Base.marks`, `Base.IsDigit`: the ways to write a literal.
  * `Opcode.Denotes`: the number that a token denotes, as a literal of one of these bases.
  * `Text.valueOf?_eq_some_iff`: digits are read as a positional numeral.
  * `Text.wordOf?`: digits read in words, with overflow looked for at each of them; `Text.foldlM_appendWord?`
    says that it is found just when the whole number is no word.
  * `Opcode.ofLiteral?_grammar`: which tokens are read, and as what.
-/
import IsaTable.Opcode.Literal
import Mathlib.Data.List.Forall2
import Mathlib.Data.Nat.Digits.Lemmas

namespace IsaTable

/-- The bases that a literal can be written in. -/
inductive Base where
  | binary
  | decimal
  | hexadecimal
deriving DecidableEq

namespace Base

/-- The number of digits of a base. -/
def radix : Base → Nat
  | binary => 2
  | decimal => 10
  | hexadecimal => 16

/-- The marks that can stand in front of the digits. -/
def marks : Base → List String
  | binary => ["0b", "0B"]
  | decimal => [""]
  | hexadecimal => ["0x", "0X"]

/-- The digits in the order of their values, in lower case. -/
def lowerDigits : List Char := "0123456789abcdef".toList

/-- The digits in the order of their values, in upper case. -/
def upperDigits : List Char := "0123456789ABCDEF".toList

/-- A character is the digit of value `d` in a base, in either case. -/
def IsDigit (base : Base) (c : Char) (d : Nat) : Prop :=
  d < base.radix ∧ (lowerDigits[d]? = some c ∨ upperDigits[d]? = some c)

/-- One or more digits of a base, with their values. -/
def IsRun (base : Base) (run : List Char) (digits : List Nat) : Prop :=
  run ≠ [] ∧ List.Forall₂ base.IsDigit run digits

theorem radix_pos (base : Base) : 0 < base.radix := by
  cases base <;> decide

theorem radix_le (base : Base) : base.radix ≤ 16 := by
  cases base <;> decide

/-- A place in a row of characters, found by the code point that stands there. -/
theorem getElem?_eq_some_iff_toNat {row : List Char} {d n : Nat} {c : Char}
    (h : row[d]?.map Char.toNat = some n) : row[d]? = some c ↔ c.toNat = n := by
  obtain ⟨c', hc', rfl⟩ := Option.map_eq_some_iff.1 h
  rw [hc', Option.some.injEq, eq_comm]
  exact Char.toNat_inj.symm

/-- The digits by their code points. -/
theorem isDigit_iff {base : Base} {c : Char} {d : Nat} :
    base.IsDigit c d ↔ d < base.radix ∧
      (c.toNat = (if d < 10 then 48 + d else 87 + d) ∨
        c.toNat = if d < 10 then 48 + d else 55 + d) := by
  refine and_congr_right fun hlt => ?_
  have hd : d < 16 := Nat.lt_of_lt_of_le hlt base.radix_le
  have hlower : ∀ d < 16, lowerDigits[d]?.map Char.toNat =
      some (if d < 10 then 48 + d else 87 + d) := by decide
  have hupper : ∀ d < 16, upperDigits[d]?.map Char.toNat =
      some (if d < 10 then 48 + d else 55 + d) := by decide
  rw [getElem?_eq_some_iff_toNat (hlower d hd), getElem?_eq_some_iff_toNat (hupper d hd)]

theorem IsDigit.isAlphanum {base : Base} {c : Char} {d : Nat} (h : base.IsDigit c d) :
    c.isAlphanum = true := by
  have hlower : lowerDigits.all Char.isAlphanum = true := by decide
  have hupper : upperDigits.all Char.isAlphanum = true := by decide
  rcases h.2 with hc | hc
  · exact List.all_eq_true.1 hlower c (List.mem_of_getElem? hc)
  · exact List.all_eq_true.1 hupper c (List.mem_of_getElem? hc)

theorem IsRun.toNat_second_le {c c' : Char} {rest : List Char} {digits : List Nat}
    (h : decimal.IsRun (c :: c' :: rest) digits) : c'.toNat ≤ 57 := by
  obtain ⟨d, _, -, htail, rfl⟩ := List.forall₂_cons_left_iff.1 h.2
  obtain ⟨d', _, hd', -, rfl⟩ := List.forall₂_cons_left_iff.1 htail
  obtain ⟨hlt, hc'⟩ := isDigit_iff.1 hd'
  have hten : d' < 10 := hlt
  rw [if_pos hten, if_pos hten] at hc'
  omega

/-- Zeros in front of a run are digits of every base. -/
theorem IsRun.replicate_append {base : Base} {run : List Char} {digits : List Nat}
    (h : base.IsRun run digits) (k : Nat) :
    base.IsRun (List.replicate k '0' ++ run) (List.replicate k 0 ++ digits) := by
  have hzero : base.IsDigit '0' 0 := ⟨base.radix_pos, Or.inl rfl⟩
  refine ⟨List.append_ne_nil_of_right_ne_nil _ h.1, ?_⟩
  induction k with
  | zero => exact h.2
  | succ k ih => exact .cons hzero ih

end Base

namespace Text

/-- **A digit is read as its place in the row of digits.** -/
theorem digitValue?_eq_some_iff {base : Base} {c : Char} {d : Nat} :
    digitValue? base.radix c = some d ↔ base.IsDigit c d := by
  have hradix := base.radix_le
  simp only [digitValue?, Option.filter_eq_some_iff, decide_eq_true_eq, Base.isDigit_iff]
  rw [and_comm]
  refine and_congr_right fun hlt => ?_
  -- the four cases of reading against the two halves of the row
  split
  · rw [Option.some.injEq]
    split <;> omega
  split
  · rw [Option.some.injEq]
    split <;> omega
  split
  · rw [Option.some.injEq]
    split <;> omega
  · simp only [reduceCtorEq, false_iff]
    split <;> omega

/-- A run of digits behind a number that was read already. -/
theorem foldlM_appendDigit?_eq_some_iff {base : Base} {run : List Char} {acc n : Nat} :
    run.foldlM (appendDigit? base.radix) acc = some n ↔
      ∃ digits, List.Forall₂ base.IsDigit run digits ∧
        n = acc * base.radix ^ digits.length + Nat.ofDigits base.radix digits.reverse := by
  induction run generalizing acc with
  | nil => simp [eq_comm]
  | cons c run ih =>
    have hfirst (d : Nat) (digits : List Nat) :
        acc * base.radix ^ (d :: digits).length + Nat.ofDigits base.radix (d :: digits).reverse =
          (acc * base.radix + d) * base.radix ^ digits.length +
            Nat.ofDigits base.radix digits.reverse := by
      rw [List.reverse_cons, Nat.ofDigits_append, Nat.ofDigits_singleton, List.length_reverse,
        List.length_cons]
      ring
    simp only [List.foldlM_cons, appendDigit?, Option.bind_eq_bind, Option.bind_eq_some_iff,
      Option.map_eq_some_iff, digitValue?_eq_some_iff, ih]
    constructor
    · rintro ⟨_, ⟨d, hd, rfl⟩, digits, hrun, rfl⟩
      exact ⟨d :: digits, .cons hd hrun, (hfirst d digits).symm⟩
    · rintro ⟨_, hrun, rfl⟩
      cases hrun with
      | @cons _ d _ digits hd hrun => exact ⟨_, ⟨d, hd, rfl⟩, digits, hrun, hfirst d digits⟩

/-- **Digits are read as a positional numeral.** -/
theorem valueOf?_eq_some_iff {base : Base} {run : List Char} {n : Nat} :
    valueOf? base.radix run = some n ↔
      ∃ digits, List.Forall₂ base.IsDigit run digits ∧
        n = Nat.ofDigits base.radix digits.reverse := by
  simp only [valueOf?, foldlM_appendDigit?_eq_some_iff, Nat.zero_mul, Nat.zero_add]

/-! ## Reading in words -/

/-- The word of a number, if there is one. -/
def word? (n : Nat) : Option UInt64 :=
  if n < UInt64.size then some (UInt64.ofNat n) else none

/-- A product of words that is a word. -/
def mul? (x y : UInt64) : Option UInt64 :=
  if x.toNat * y.toNat < UInt64.size then some (x * y) else none

/-- A sum of words that is a word. -/
def add? (x y : UInt64) : Option UInt64 :=
  if x.toNat + y.toNat < UInt64.size then some (x + y) else none

/-- Appends a digit to a word, first by a product and then by a sum. -/
def appendWord? (base : Nat) (acc : UInt64) (c : Char) : Option UInt64 := do
  let product ← mul? acc (UInt64.ofNat base)
  let digit ← digitValue? base c
  add? product (UInt64.ofNat digit)

/-- The word that one or more digits denote. A plus sign may stand in front of them. -/
def wordOf? (base : Nat) : List Char → Option UInt64
  | [] => none
  | '+' :: [] => none
  | '+' :: run => run.foldlM (appendWord? base) 0
  | run => run.foldlM (appendWord? base) 0

theorem word?_of_lt {n : Nat} (h : n < UInt64.size) : word? n = some (UInt64.ofNat n) :=
  if_pos h

theorem word?_of_le {n : Nat} (h : UInt64.size ≤ n) : word? n = none :=
  if_neg (Nat.not_lt.2 h)

theorem word?_eq_some_iff {n : Nat} {w : UInt64} : word? n = some w ↔ n = w.toNat := by
  constructor
  · intro h
    rw [word?] at h
    split at h
    · next hlt =>
      obtain rfl := Option.some.inj h
      exact (UInt64.toNat_ofNat_of_lt' hlt).symm
    · cases h
  · rintro rfl
    rw [word?_of_lt w.toNat_lt, UInt64.ofNat_toNat]

theorem word?_toNat (w : UInt64) : word? w.toNat = some w :=
  word?_eq_some_iff.2 rfl

theorem mul?_eq (x y : UInt64) : mul? x y = word? (x.toNat * y.toNat) := by
  rw [mul?, word?, UInt64.ofNat_mul, UInt64.ofNat_toNat, UInt64.ofNat_toNat]

theorem add?_eq (x y : UInt64) : add? x y = word? (x.toNat + y.toNat) := by
  rw [add?, word?, UInt64.ofNat_add, UInt64.ofNat_toNat, UInt64.ofNat_toNat]

/-- **One more digit** overflows just when the longer number is no word. -/
theorem appendWord?_eq (base : Base) (acc : UInt64) (c : Char) :
    appendWord? base.radix acc c = (appendDigit? base.radix acc.toNat c).bind word? := by
  have hsize {n : Nat} (h : n ≤ 16) : (UInt64.ofNat n).toNat = n :=
    UInt64.toNat_ofNat_of_lt' (Nat.lt_of_le_of_lt h (by decide))
  simp only [appendWord?, appendDigit?, mul?_eq, add?_eq, hsize base.radix_le, Option.bind_eq_bind]
  cases hd : digitValue? base.radix c with
  | none => simp
  | some d =>
    have hlt : d < base.radix := (digitValue?_eq_some_iff.1 hd).1
    have hdigit := hsize (Nat.le_trans hlt.le base.radix_le)
    rw [Option.map_some, Option.bind_some]
    rcases Nat.lt_or_ge (acc.toNat * base.radix) UInt64.size with hproduct | hproduct
    · rw [word?_of_lt hproduct, Option.bind_some, Option.bind_some, hdigit,
        UInt64.toNat_ofNat_of_lt' hproduct]
    · rw [word?_of_le hproduct, Option.bind_none,
        word?_of_le (Nat.le_trans hproduct (Nat.le_add_right _ d))]

/-- Appending digits does not make a number smaller. -/
theorem le_of_foldlM_appendDigit? {base : Base} {run : List Char} {acc n : Nat}
    (h : run.foldlM (appendDigit? base.radix) acc = some n) : acc ≤ n := by
  obtain ⟨digits, -, rfl⟩ := foldlM_appendDigit?_eq_some_iff.1 h
  have hpos : 0 < base.radix ^ digits.length := Nat.pow_pos base.radix_pos
  calc acc ≤ acc * base.radix ^ digits.length := Nat.le_mul_of_pos_right acc hpos
    _ ≤ _ := Nat.le_add_right _ _

/-- **A run of digits** overflows, at one digit or another, just when the whole number is no word. -/
theorem foldlM_appendWord? (base : Base) (run : List Char) (acc : UInt64) :
    run.foldlM (appendWord? base.radix) acc =
      (run.foldlM (appendDigit? base.radix) acc.toNat).bind word? := by
  induction run generalizing acc with
  | nil => exact (word?_toNat acc).symm
  | cons c run ih =>
    rw [List.foldlM_cons, List.foldlM_cons, appendWord?_eq]
    cases appendDigit? base.radix acc.toNat c with
    | none => rfl
    | some n =>
      simp only [Option.bind_eq_bind, Option.bind_some]
      rcases Nat.lt_or_ge n UInt64.size with hn | hn
      · rw [word?_of_lt hn, Option.bind_some, ih, UInt64.toNat_ofNat_of_lt' hn]
      · -- the overflow is found here, and no later digit can undo it
        rw [word?_of_le hn, Option.bind_none, eq_comm, Option.bind_eq_none_iff]
        intro m hm
        exact word?_of_le (Nat.le_trans hn (le_of_foldlM_appendDigit? hm))

theorem valueOf?_plus (base : Base) (run : List Char) : valueOf? base.radix ('+' :: run) = none := by
  have hplus : digitValue? base.radix '+' = none := by cases base <;> rfl
  simp [valueOf?, appendDigit?, hplus]

/-- Behind no sign, digits read in words are digits read as numbers. -/
theorem wordOf?_eq (base : Base) {run : List Char} (hne : run ≠ []) (hsign : run.head? ≠ some '+') :
    wordOf? base.radix run = (valueOf? base.radix run).bind word? := by
  rw [valueOf?, ← UInt64.toNat_zero, ← foldlM_appendWord?]
  unfold wordOf?
  split
  · exact absurd rfl hne
  · exact absurd rfl hsign
  · exact absurd rfl hsign
  · rfl

end Text

namespace Opcode

/-! ## Marks -/

/-- Digits behind a mark are taken apart from it. -/
theorem radix_append {base : Base} {mark : String} {run : List Char} {digits : List Nat}
    (hmark : mark ∈ base.marks) (hrun : base.IsRun run digits) :
    radix (mark.toList ++ run) = (base.radix, run) := by
  cases base with
  | binary =>
    rcases List.mem_pair.1 hmark with rfl | rfl
    · rfl
    · rfl
  | hexadecimal =>
    rcases List.mem_pair.1 hmark with rfl | rfl
    · rfl
    · rfl
  | decimal =>
    obtain rfl := List.mem_singleton.1 hmark
    rw [String.toList_empty, List.nil_append]
    -- without a mark, the second digit is none of the letters that belong to one
    unfold radix
    split
    · exact absurd hrun.toNat_second_le (by decide)
    · exact absurd hrun.toNat_second_le (by decide)
    · exact absurd hrun.toNat_second_le (by decide)
    · exact absurd hrun.toNat_second_le (by decide)
    · rfl

/-- Every token is a mark, perhaps an empty one, and a rest. -/
theorem exists_mark (chars : List Char) :
    ∃ base : Base, ∃ mark ∈ base.marks,
      chars = mark.toList ++ (radix chars).2 ∧ (radix chars).1 = base.radix := by
  fun_cases radix chars with
  | case1 digits => exact ⟨.hexadecimal, "0x", by decide, rfl, rfl⟩
  | case2 digits => exact ⟨.hexadecimal, "0X", by decide, rfl, rfl⟩
  | case3 digits => exact ⟨.binary, "0b", by decide, rfl, rfl⟩
  | case4 digits => exact ⟨.binary, "0B", by decide, rfl, rfl⟩
  | case5 => exact ⟨.decimal, "", by decide, rfl, rfl⟩

/-! ## Literals -/

/-- A token is a literal of a number: the mark of a base, and behind it one or more digits of that base
    with the number as their positional value. -/
def Denotes (token : String) (n : Nat) : Prop :=
  ∃ base : Base, ∃ mark ∈ base.marks, ∃ run digits, token = mark ++ String.ofList run ∧
    base.IsRun run digits ∧ n = Nat.ofDigits base.radix digits.reverse

variable {token : String} {base : Base} {mark : String} {run : List Char} {digits : List Nat}

/-- What is read from a mark and digits behind it. -/
theorem ofLiteral?_append (hmark : mark ∈ base.marks) (hrun : base.IsRun run digits) :
    ofLiteral? (mark ++ String.ofList run) =
      Text.word? (Nat.ofDigits base.radix digits.reverse) := by
  have hradix : radix (mark ++ String.ofList run).toList = (base.radix, run) := by
    rw [String.toList_append, String.toList_ofList, radix_append hmark hrun]
  have hvalue := Text.valueOf?_eq_some_iff.2 ⟨digits, hrun.2, rfl⟩
  simp only [ofLiteral?, hradix, if_neg hrun.1, hvalue, Option.bind_some]
  rfl

/-- **A token is read just when it is a literal of a word.** -/
theorem ofLiteral?_eq_some_iff {v : Opcode} : ofLiteral? token = some v ↔ Denotes token v.toNat := by
  constructor
  · intro h
    obtain ⟨base, mark, hmark, hchars, hbase⟩ := exists_mark token.toList
    simp only [ofLiteral?, hbase] at h
    split at h
    · cases h
    next hne =>
    obtain ⟨n, hn, hword⟩ := Option.bind_eq_some_iff.1 h
    obtain ⟨digits, hdigits, rfl⟩ := Text.valueOf?_eq_some_iff.1 hn
    refine ⟨base, mark, hmark, _, digits, ?_, ⟨hne, hdigits⟩, (Text.word?_eq_some_iff.1 hword).symm⟩
    rw [← String.toList_inj, String.toList_append, String.toList_ofList]
    exact hchars
  · rintro ⟨base, mark, hmark, run, digits, rfl, hrun, hv⟩
    rw [ofLiteral?_append hmark hrun]
    exact Text.word?_eq_some_iff.2 hv.symm

/-- A token is not read just when all that it denotes is too large, or it denotes nothing. -/
theorem ofLiteral?_eq_none_iff :
    ofLiteral? token = none ↔ ∀ n, Denotes token n → UInt64.size ≤ n := by
  rw [Option.eq_none_iff_forall_ne_some]
  simp only [ne_eq, ofLiteral?_eq_some_iff]
  constructor
  · intro h n hn
    by_contra hlt
    have hword := UInt64.toNat_ofNat_of_lt' (Nat.not_le.1 hlt)
    exact h (UInt64.ofNat n) (hword.symm ▸ hn)
  · intro h v hv
    exact absurd v.toNat_lt (Nat.not_lt.2 (h _ hv))

/-- A literal consists of letters and digits. -/
theorem Denotes.isAlphanum {n : Nat} (h : Denotes token n) {c : Char} (hc : c ∈ token.toList) :
    c.isAlphanum = true := by
  obtain ⟨base, mark, hmark, run, digits, rfl, ⟨-, hrun⟩, -⟩ := h
  rw [String.toList_append, String.toList_ofList] at hc
  rcases List.mem_append.1 hc with hc | hc
  · have hmarks : (base.marks.all fun m => m.toList.all Char.isAlphanum) = true := by
      cases base <;> decide
    exact List.all_eq_true.1 (List.all_eq_true.1 hmarks mark hmark) c hc
  · have hboth : List.Forall₂ (fun c d => c.isAlphanum = true ∧ base.IsDigit c d) run digits :=
      hrun.imp fun c d hd => ⟨hd.isAlphanum, hd⟩
    exact ((List.forall₂_and_left run digits).1 hboth).1 c hc

/-- Zeros in front of the digits do not matter. -/
theorem ofLiteral?_replicate_zero (hmark : mark ∈ base.marks) (hrun : base.IsRun run digits)
    (k : Nat) :
    ofLiteral? (mark ++ String.ofList (List.replicate k '0' ++ run)) =
      ofLiteral? (mark ++ String.ofList run) := by
  rw [ofLiteral?_append hmark (hrun.replicate_append k), ofLiteral?_append hmark hrun,
    List.reverse_append, List.reverse_replicate, Nat.ofDigits_append, Nat.ofDigits_replicate_zero,
    Nat.mul_zero, Nat.add_zero]

/-- Read in words, digit by digit, tokens give the same. A sign is turned away before. -/
theorem ofLiteral?_eq_wordOf? (token : String) :
    ofLiteral? token =
      if (radix token.toList).2 = [] ∨ (radix token.toList).2.head? = some '+' then none
      else Text.wordOf? (radix token.toList).1 (radix token.toList).2 := by
  obtain ⟨base, -, -, -, hbase⟩ := exists_mark token.toList
  simp only [ofLiteral?, hbase]
  generalize (radix token.toList).2 = run
  by_cases hne : run = []
  · rw [if_pos hne, if_pos (Or.inl hne)]
  by_cases hsign : run.head? = some '+'
  · obtain ⟨rest, rfl⟩ := List.head?_eq_some_iff.1 hsign
    rw [if_neg hne, if_pos (Or.inr hsign), Text.valueOf?_plus, Option.bind_none]
  · rw [if_neg hne, if_neg (not_or.2 ⟨hne, hsign⟩), Text.wordOf?_eq base hne hsign]
    rfl

/-- **The grammar of opcode literals.** A token is read as a word just when it is a literal of it: decimal
    digits, hexadecimal digits of either case behind `0x` or `0X`, or binary digits behind `0b` or `0B`, at
    least one, with the word as their positional value. Any other token is not read, be it that it
    denotes no number or one that is too large; so no character but an ASCII letter or digit is part of
    what is read. Zeros in front of the digits do not matter. All this is also what reading in words gives,
    where product and sum are checked for overflow at every digit. -/
theorem ofLiteral?_grammar :
    (∀ (token : String) (v : Opcode), ofLiteral? token = some v ↔ Denotes token v.toNat) ∧
    (∀ token : String, ofLiteral? token = none ↔ ∀ n, Denotes token n → UInt64.size ≤ n) ∧
    (∀ (token : String), ∀ c ∈ token.toList, c.isAlphanum = false → ofLiteral? token = none) ∧
    (∀ (base : Base) (mark : String) (run : List Char) (digits : List Nat) (k : Nat),
      mark ∈ base.marks → base.IsRun run digits →
        ofLiteral? (mark ++ String.ofList (List.replicate k '0' ++ run)) =
          ofLiteral? (mark ++ String.ofList run)) ∧
    ∀ token : String, ofLiteral? token =
      if (radix token.toList).2 = [] ∨ (radix token.toList).2.head? = some '+' then none
      else Text.wordOf? (radix token.toList).1 (radix token.toList).2 := by
  refine ⟨fun _ _ => ofLiteral?_eq_some_iff, fun _ => ofLiteral?_eq_none_iff, ?_,
    fun _ _ _ _ k hmark hrun => ofLiteral?_replicate_zero hmark hrun k, ofLiteral?_eq_wordOf?⟩
  intro token c hc halpha
  refine ofLiteral?_eq_none_iff.2 fun n hn => ?_
  rw [hn.isAlphanum hc] at halpha
  cases halpha

/-- Digits of both cases behind any number of zeros, a separator, and the first number that is no word. -/
theorem ofLiteral?_grammar_zeros :
    Base.hexadecimal.IsRun ['f', 'F'] [15, 15] ∧
      (∀ k, ofLiteral? ("0X" ++ String.ofList (List.replicate k '0' ++ ['f', 'F'])) = some 255) ∧
      ofLiteral? "0x_1" = none ∧ ofLiteral? "18446744073709551616" = none := by
  obtain ⟨hsome, -, hother, hzeros, hwords⟩ := ofLiteral?_grammar
  have hrun : Base.hexadecimal.IsRun ['f', 'F'] [15, 15] :=
    ⟨by decide, .cons ⟨by decide, Or.inl rfl⟩ (.cons ⟨by decide, Or.inr rfl⟩ .nil)⟩
  have hmark : "0X" ∈ Base.hexadecimal.marks := by decide
  have hvalue : ofLiteral? "0XfF" = some 255 :=
    (hsome "0XfF" 255).2 ⟨.hexadecimal, "0X", hmark, _, _, rfl, hrun, rfl⟩
  refine ⟨hrun, fun k => ?_, hother "0x_1" '_' (by decide) (by decide), ?_⟩
  · rw [hzeros _ _ _ _ k hmark hrun]
    exact hvalue
  · rw [hwords]
    decide

end Opcode

end IsaTable
