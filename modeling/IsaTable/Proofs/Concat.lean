/-
  Loading texts that are put one behind the other.

  A text that ends in a line feed does not interfere with the lines behind it. So its rows are read as
  on their own, and the rows behind it as on their own, too, with line numbers counted on.

  * `specLines_append_lines`, `specLines_append`, `Dialect.dataLines_append`: the lines of both texts, and
    those that hold rows.
  * `Dialect.readRow_renumber`: the number of a line is only passed on to what is read from it.
  * `Dialect.load_append`: what the texts give together is decided by what each gives.
-/
import IsaTable.Proofs.Lines
import IsaTable.Spec.Load

namespace IsaTable

/-! ## Lines -/

theorem modifyHead_append {α : Type} (f : α → α) {xs ys : List α} (h : xs ≠ []) :
    (xs ++ ys).modifyHead f = xs.modifyHead f ++ ys := by
  cases xs with
  | nil => exact absurd rfl h
  | cons x xs => rfl

/-- Without a byte order mark at the start, the lines are those of the text. -/
theorem specLines_of_head?_ne {b : String} (h : b.toList.head? ≠ some byteOrderMark) :
    specLines b = Text.lines b.toList := by
  rw [specLines]
  cases hls : Text.lines b.toList with
  | nil => rfl
  | cons l ls =>
    have hl : l.head? ≠ some byteOrderMark := fun hl => h (Text.head?_of_lines_eq_cons hls hl)
    cases l with
    | nil => rfl
    | cons c cs =>
      have hc : c ≠ byteOrderMark := fun hc => hl (by rw [hc]; rfl)
      simp [hc]

/-- A text that can stand before another one: it is empty or ends in a line feed. -/
def EndsLine (a : String) : Prop :=
  a = "" ∨ a.toList.getLast? = some '\n'

instance (a : String) : Decidable (EndsLine a) :=
  inferInstanceAs (Decidable (_ ∨ _))

section
variable {a b : String} (ha : EndsLine a)
  (hb : a ≠ "" → b.toList.head? ≠ some byteOrderMark)
include ha

theorem length_specLines : (specLines a).length = a.toList.count '\n' := by
  rw [specLines, List.length_modifyHead]
  rcases ha with rfl | hlast
  · rfl
  · obtain ⟨cs, hcs⟩ := List.getLast?_eq_some_iff.1 hlast
    rw [hcs, Text.length_lines]
    simp

/-- Behind a text that ends its line, the lines of another one follow as they are, byte order marks
    too. -/
theorem specLines_append_lines (hmark : a = "" → b.toList.head? ≠ some byteOrderMark) :
    specLines (a ++ b) = specLines a ++ Text.lines b.toList := by
  by_cases hempty : a = ""
  · subst hempty
    rw [String.empty_append, specLines_of_head?_ne (hmark rfl)]
    rfl
  · obtain ⟨cs, hcs⟩ := List.getLast?_eq_some_iff.1 (ha.resolve_left hempty)
    rw [specLines, specLines, String.toList_append, hcs, List.append_assoc, List.singleton_append,
      Text.lines_append, modifyHead_append _ (Text.lines_ne_nil (by simp))]

include hb

/-- **The lines of two texts** are those of the one and those of the other. -/
theorem specLines_append : specLines (a ++ b) = specLines a ++ specLines b := by
  by_cases hempty : a = ""
  · subst hempty
    simp [specLines]
  · rw [specLines_append_lines ha fun h => absurd h hempty, specLines_of_head?_ne (hb hempty)]

/-- The lines that hold rows are those of both texts, the second ones counted on. -/
theorem Dialect.dataLines_append (d : Dialect) :
    d.dataLines (a ++ b) =
      d.dataLines a ++ (d.dataLines b).map (Prod.map id (· + a.toList.count '\n')) := by
  have hshift : (specLines b).zipIdx (1 + a.toList.count '\n') =
      ((specLines b).zipIdx 1).map (Prod.map id (· + a.toList.count '\n')) := by
    rw [List.map_snd_add_zipIdx_eq_zipIdx, Nat.add_comm]
  rw [dataLines, specLines_append ha hb, List.zipIdx_append, List.filter_append, length_specLines ha,
    hshift, List.filter_map]
  rfl

end

/-! ## Line numbers -/

/-- A record whose line has another number. -/
def Record.renumber (f : Nat → Nat) (r : Record) : Record :=
  { r with line := f r.line }

/-- An error about a row whose line has another number. -/
def RowError.renumber (f : Nat → Nat) (e : RowError) : RowError :=
  { e with line := f e.line }

/-- What is read under other line numbers. -/
def renumbered {α : Type} (f : Nat → Nat) (g : α → α) (x : Except RowError α) : Except RowError α :=
  (x.map g).mapError (RowError.renumber f)

theorem Columns.toRecord_renumber (c : Columns) (f : Nat → Nat) (line : Nat) :
    c.toRecord (f line) = (c.toRecord line).map (Record.renumber f) := by
  unfold toRecord
  cases Opcode.ofLiteral? c.opcode with
  | none => rfl
  | some opcode =>
    by_cases hname : isName c.name
    · simp only [hname, if_true]
      cases Arity.ofToken? c.arity with
      | none => rfl
      | some arity => cases Extension.ofToken? c.extension <;> rfl
    · simp only [hname, Bool.false_eq_true, if_false]
      rfl

namespace Dialect

variable (d : Dialect)

/-- **The number of a line is only passed on.** -/
theorem readRow_renumber (f : Nat → Nat) (line : Nat) (text : List Char) :
    d.readRow (f line) text = renumbered f (Record.renumber f) (d.readRow line text) := by
  simp only [readRow]
  cases d.layout.columns? (d.fields text) with
  | none => rfl
  | some c =>
    simp only [c.toRecord_renumber f line]
    cases c.toRecord line <;> rfl

/-- Rows whose lines have other numbers. -/
theorem mapM_readRow_renumber (f : Nat → Nat) (ls : List (List Char × Nat)) :
    (ls.map (Prod.map id f)).mapM (fun p => d.readRow p.2 p.1) =
      renumbered f (List.map (Record.renumber f)) (ls.mapM fun p => d.readRow p.2 p.1) := by
  induction ls with
  | nil => rfl
  | cons p ls ih =>
    rw [List.map_cons, List.mapM_cons, List.mapM_cons, ih]
    simp only [Prod.map_fst, Prod.map_snd, id_eq, readRow_renumber]
    cases d.readRow p.2 p.1 with
    | error e => rfl
    | ok r => cases ls.mapM fun p => d.readRow p.2 p.1 <;> rfl

/-- **Loading goes line by line.** Of two texts, the first one empty or ended by a line feed, the
    first faulty row counts. If there is none, the records are those of both. Behind the first text,
    line numbers are counted on. -/
theorem load_append {a b : String} (ha : EndsLine a)
    (hb : a ≠ "" → b.toList.head? ≠ some byteOrderMark) :
    d.load (a ++ b) =
      match d.load a, d.load b with
      | .error e, _ => .error e
      | .ok _, .error e => .error { e with line := e.line + a.toList.count '\n' }
      | .ok ra, .ok rb =>
        .ok (ra ++ rb.map fun r => { r with line := r.line + a.toList.count '\n' }) := by
  have hload : d.load (a ++ b) = (do
      let ra ← d.load a
      let rb ← renumbered (· + a.toList.count '\n')
        (List.map (Record.renumber (· + a.toList.count '\n'))) (d.load b)
      pure (ra ++ rb)) := by
    rw [load, dataLines_append ha hb, List.mapM_append, mapM_readRow_renumber]
    rfl
  rw [hload]
  cases d.load a with
  | error e => rfl
  | ok ra => cases d.load b <;> rfl

/-- A mark and a comment before the first row, and a faulty row behind it. -/
theorem load_append_fault :
    let a := "\uFEFF# opcodes\r\n\n0x10,NOP,Z,N\n"
    let b := "  # more\n1,ADD,Q,N,"
    EndsLine a ∧ b.toList.head? ≠ some byteOrderMark ∧
      ({} : Dialect).load b = .error ⟨2, .arity "Q"⟩ ∧
      ({} : Dialect).load (a ++ b) = .error ⟨5, .arity "Q"⟩ := by
  exact ⟨by decide, by decide, by rfl, (load_append {} (by decide) fun _ => by decide).trans (by rfl)⟩

end Dialect

end IsaTable
