/-
  Blanks around fields.

  A line is cut into fields before anything is trimmed, and both the delimiter and the comment character
  may be blanks themselves. Other blanks around the fields are not seen.

  * `PaddedField`, `PaddedField.line`, `PaddedField.paddedLine`: fields with blanks to be put around them,
    and the line without and with these.
  * `PaddedField.alike_paddedLine`: both lines are read alike.
  * `AtLineEnd`: what may follow a line.
  * `Dialect.load_paddedLine_iff`: blanks around the fields of a line do not matter unless carriage returns
    separate fields.
-/
import IsaTable.Proofs.Alike
import IsaTable.Proofs.Written

namespace IsaTable

/-- A field of a line and blanks to be put around it. None of them holds a delimiter or a line feed. -/
structure PaddedField (d : Dialect) where
  before : List Char
  text : List Char
  behind : List Char
  isBlank_before : ∀ c ∈ before, Text.isBlank c = true
  isBlank_behind : ∀ c ∈ behind, Text.isBlank c = true
  delimiter_notMem : d.delimiter ∉ before ++ text ++ behind
  newline_notMem : '\n' ∉ before ++ text ++ behind

namespace PaddedField

variable {d : Dialect}

/-! ## Fields -/

/-- The field with the blanks around it. -/
def padded (f : PaddedField d) : List Char :=
  f.before ++ f.text ++ f.behind

/-- The line without the blanks. -/
def line (fs : List (PaddedField d)) : List Char :=
  [d.delimiter].intercalate (fs.map text)

/-- The line with the blanks. -/
def paddedLine (fs : List (PaddedField d)) : List Char :=
  [d.delimiter].intercalate (fs.map padded)

theorem trim_padded (f : PaddedField d) : Text.trim f.padded = Text.trim f.text := by
  rw [padded, Text.trim_append_blank f.isBlank_behind, Text.trim_blank_append f.isBlank_before]

theorem filter_padded (f : PaddedField d) :
    f.padded.filter (fun c => !Text.isBlank c) = f.text.filter fun c => !Text.isBlank c := by
  have hnone {bs : List Char} (h : ∀ b ∈ bs, Text.isBlank b = true) :
      bs.filter (fun c => !Text.isBlank c) = [] := by
    rw [List.filter_eq_nil_iff]
    intro b hb
    simp [h b hb]
  rw [padded, List.filter_append, List.filter_append, hnone f.isBlank_before, hnone f.isBlank_behind,
    List.nil_append, List.append_nil]

theorem text_sublist_padded (f : PaddedField d) : f.text.Sublist f.padded :=
  (List.sublist_append_right f.before f.text).trans (List.sublist_append_left _ f.behind)

/-! ## Lines -/

theorem line_cons_cons (f g : PaddedField d) (fs : List (PaddedField d)) :
    line (f :: g :: fs) = f.text ++ [d.delimiter] ++ line (g :: fs) :=
  List.intercalate_cons_cons

theorem paddedLine_cons_cons (f g : PaddedField d) (fs : List (PaddedField d)) :
    paddedLine (f :: g :: fs) = f.padded ++ [d.delimiter] ++ paddedLine (g :: fs) :=
  List.intercalate_cons_cons

/-- What relates each field to the padded one, and is kept when texts are put together, relates the two
    lines. -/
theorem rel_paddedLine {R : List Char → List Char → Prop} (hfield : ∀ f : PaddedField d, R f.text f.padded)
    (hrefl : ∀ l, R l l) (happend : ∀ {k l m n}, R k l → R m n → R (k ++ m) (l ++ n))
    (fs : List (PaddedField d)) : R (line fs) (paddedLine fs) := by
  induction fs with
  | nil => exact hrefl []
  | cons f fs ih =>
    cases fs with
    | nil => simpa [line, paddedLine] using hfield f
    | cons g fs =>
      rw [line_cons_cons, paddedLine_cons_cons]
      exact happend (happend (hfield f) (hrefl _)) ih

theorem line_sublist_paddedLine (fs : List (PaddedField d)) : (line fs).Sublist (paddedLine fs) :=
  rel_paddedLine text_sublist_padded List.Sublist.refl List.Sublist.append fs

/-- The characters other than blanks are those of the line, in order. -/
theorem filter_paddedLine (fs : List (PaddedField d)) :
    (paddedLine fs).filter (fun c => !Text.isBlank c) =
      (line fs).filter fun c => !Text.isBlank c := by
  refine rel_paddedLine (R := fun l m => m.filter (fun c => !Text.isBlank c) =
    l.filter fun c => !Text.isBlank c) filter_padded (fun _ => rfl) ?_ fs
  intro k l m n hkl hmn
  rw [List.filter_append, List.filter_append, hkl, hmn]

/-- The line is cut at the same delimiters, and what was put around a field is trimmed away. -/
theorem fields_paddedLine (fs : List (PaddedField d)) : d.fields (paddedLine fs) = d.fields (line fs) := by
  cases fs with
  | nil => rfl
  | cons f fs =>
    have hpadded : ∀ l ∈ (f :: fs).map padded, d.delimiter ∉ l :=
      List.forall_mem_map.2 fun g _ => g.delimiter_notMem
    have htext : ∀ l ∈ (f :: fs).map text, d.delimiter ∉ l :=
      List.forall_mem_map.2 fun g _ hg => g.delimiter_notMem (g.text_sublist_padded.subset hg)
    rw [Dialect.fields, Dialect.fields, line, paddedLine, List.splitOn_intercalate _ hpadded (by simp),
      List.splitOn_intercalate _ htext (by simp), List.map_map, List.map_map]
    refine List.map_congr_left fun g _ => ?_
    rw [Function.comp_apply, Function.comp_apply, g.trim_padded]

/-- **A line is read alike with blanks around its fields.** -/
theorem alike_paddedLine (fs : List (PaddedField d)) : d.Alike (line fs) (paddedLine fs) where
  head? := by
    rw [Text.head?_trim_eq_find?, Text.head?_trim_eq_find?, ← List.head?_filter, ← List.head?_filter,
      filter_paddedLine]
  fields := (fields_paddedLine fs).symm

theorem newline_notMem_paddedLine (hd : d.delimiter ≠ '\n') (fs : List (PaddedField d)) :
    '\n' ∉ paddedLine fs :=
  notMem_intercalate hd.symm (List.forall_mem_map.2 fun f _ => f.newline_notMem)

theorem head?_padded_append (f : PaddedField d) {rest rest' : List Char}
    (h : rest'.head? = rest.head?) :
    (f.padded ++ rest').head? = (f.text ++ rest).head? ∨
      ∃ c, (f.padded ++ rest').head? = some c ∧ Text.isBlank c = true := by
  cases hbefore : f.before with
  | cons c bs => exact .inr ⟨c, by simp [padded, hbefore], f.isBlank_before c (by simp [hbefore])⟩
  | nil =>
    cases htext : f.text with
    | cons c cs => exact .inl (by simp [padded, hbefore, htext])
    | nil =>
      cases hbehind : f.behind with
      | cons c bs =>
        exact .inr ⟨c, by simp [padded, hbefore, htext, hbehind], f.isBlank_behind c (by simp [hbehind])⟩
      | nil => exact .inl (by simp [padded, hbefore, htext, hbehind, h])

/-- With the blanks, a line begins as without them or with a blank. -/
theorem head?_paddedLine (fs : List (PaddedField d)) :
    (paddedLine fs).head? = (line fs).head? ∨
      ∃ c, (paddedLine fs).head? = some c ∧ Text.isBlank c = true := by
  rcases fs with _ | ⟨f, _ | ⟨g, fs⟩⟩
  · exact .inl rfl
  · have hline : line [f] = f.text ++ [] := by simp [line]
    have hpadded : paddedLine [f] = f.padded ++ [] := by simp [paddedLine]
    rw [hline, hpadded]
    exact f.head?_padded_append rfl
  · rw [line_cons_cons, paddedLine_cons_cons, List.append_assoc, List.append_assoc]
    exact f.head?_padded_append rfl

/-- So it begins with a byte order mark only if it did before. -/
theorem head?_paddedLine_ne {fs : List (PaddedField d)} (h : (line fs).head? ≠ some byteOrderMark) :
    (paddedLine fs).head? ≠ some byteOrderMark := by
  rcases head?_paddedLine fs with hhead | ⟨c, hhead, hblank⟩
  · rwa [hhead]
  · rw [hhead]
    rintro ⟨⟩
    exact absurd hblank (by decide)

end PaddedField

/-! ## Texts -/

/-- A text that can stand behind a line: it is empty or begins with a line end. -/
def AtLineEnd (rest : String) : Prop :=
  rest = "" ∨ rest.toList.head? = some '\n' ∨ ['\r', '\n'] <+: rest.toList

instance (rest : String) : Decidable (AtLineEnd rest) :=
  inferInstanceAs (Decidable (_ ∨ _))

theorem AtLineEnd.head?_append_ne {rest : String} (h : AtLineEnd rest) {l : List Char}
    (hl : l.head? ≠ some byteOrderMark) : (l ++ rest.toList).head? ≠ some byteOrderMark := by
  cases l with
  | cons c cs => exact hl
  | nil =>
    rcases h with rfl | hhead | ⟨cs, hcs⟩
    · simp
    · rw [List.nil_append, hhead]
      decide
    · rw [List.nil_append, ← hcs, List.cons_append, List.head?_cons]
      decide

namespace Dialect

variable {d : Dialect}

/-- **A line may be changed in what is not seen,** whatever its end is. -/
theorem sameLines_append (hr : d.delimiter ≠ '\r') {l m : List Char} (h : d.Alike l m)
    (hsub : l.Sublist m) (hm : '\n' ∉ m) {rest : String} (hrest : AtLineEnd rest) :
    d.SameLines (Text.lines (l ++ rest.toList)) (Text.lines (m ++ rest.toList)) := by
  have hl : '\n' ∉ l := fun hmem => hm (hsub.subset hmem)
  rcases hrest with rfl | hhead | ⟨cs, hcs⟩
  · rw [String.toList_empty, List.append_nil, List.append_nil]
    by_cases hmnil : m = []
    · subst hmnil
      rw [List.sublist_nil.1 hsub]
      exact .nil
    rw [Text.lines_of_notMem hm hmnil]
    by_cases hlnil : l = []
    · -- there was no line, and now there is a blank one
      subst hlnil
      exact .blank (h.isBlankLine_eq ▸ rfl) .nil
    · rw [Text.lines_of_notMem hl hlnil]
      exact .cons h .nil
  · obtain ⟨cs, hcs⟩ := List.head?_eq_some_iff.1 hhead
    rw [hcs, Text.lines_append_newline_of_notMem hl, Text.lines_append_newline_of_notMem hm]
    exact .cons (((alike_dropReturn hr l).trans h).trans (alike_dropReturn hr m).symm) (.refl _)
  · rw [← hcs]
    have hsplit (k : List Char) : k ++ (['\r', '\n'] ++ cs) = k ++ '\r' :: '\n' :: cs := rfl
    rw [hsplit, hsplit, Text.lines_append_return_newline hl, Text.lines_append_return_newline hm]
    exact .cons h (.refl _)

/-- Blanks around the fields of a line are not seen, wherever it stands. -/
theorem load_paddedLine (hr : d.delimiter ≠ '\r') (hn : d.delimiter ≠ '\n') {a rest : String}
    (ha : EndsLine a) (hrest : AtLineEnd rest) (fs : List (PaddedField d))
    (hmark : a = "" → (PaddedField.line fs).head? ≠ some byteOrderMark) :
    d.load (a ++ String.ofList (PaddedField.paddedLine fs) ++ rest) =
        d.load (a ++ String.ofList (PaddedField.line fs) ++ rest) ∧
      d.commentCount (a ++ String.ofList (PaddedField.paddedLine fs) ++ rest) =
        d.commentCount (a ++ String.ofList (PaddedField.line fs) ++ rest) := by
  have hspec {l : List Char} (hl : a = "" → l.head? ≠ some byteOrderMark) :
      specLines (a ++ String.ofList l ++ rest) = specLines a ++ Text.lines (l ++ rest.toList) := by
    have hlist : (String.ofList l ++ rest).toList = l ++ rest.toList := by simp
    rw [String.append_assoc, specLines_append_lines ha, hlist]
    intro hempty
    rw [hlist]
    exact hrest.head?_append_ne (hl hempty)
  apply load_congr
  rw [hspec hmark, hspec fun hempty => PaddedField.head?_paddedLine_ne (hmark hempty)]
  apply SameLines.append_left
  exact sameLines_append hr (PaddedField.alike_paddedLine fs) (PaddedField.line_sublist_paddedLine fs)
    (PaddedField.newline_notMem_paddedLine hn fs) hrest

/-- Where carriage returns separate fields, one at the end of a line does so only with a blank behind
    it. -/
theorem exists_load_paddedLine_ne (hd : d.delimiter = '\r') :
    ∃ fs : List (PaddedField d), (PaddedField.line fs).head? ≠ some byteOrderMark ∧
      d.load ("" ++ String.ofList (PaddedField.paddedLine fs) ++ "\n") ≠
        d.load ("" ++ String.ofList (PaddedField.line fs) ++ "\n") := by
  obtain ⟨c, hblank, hmark, hcomment, hn, hr⟩ := d.exists_visible
  let first : PaddedField d := ⟨[], [c], [], by simp, by simp, by simpa [hd] using hr, by simpa using hn⟩
  let second : PaddedField d := ⟨[], [], [' '], by simp, List.forall_mem_singleton.2 (by decide),
    by simp [hd], by simp⟩
  have hline : PaddedField.line [first, second] = [c, d.delimiter] := rfl
  have hpadded : PaddedField.paddedLine [first, second] = [c, d.delimiter, ' '] := rfl
  have hlines : Text.lines ([c, d.delimiter] ++ ['\n']) = [[c]] := by
    rw [hd]
    exact Text.lines_append_return_newline (l := [c]) (by simpa using hn) []
  have hlonger : Text.lines ([c, d.delimiter, ' '] ++ ['\n']) = [[c, d.delimiter, ' ']] := by
    rw [hd]
    exact Text.lines_append_newline (l := [c, '\r', ' ']) (by simpa using hn) (by simp) []
  have htext (l : List Char) : "" ++ String.ofList l ++ "\n" = String.ofList (l ++ ['\n']) := by
    apply String.toList_inj.1
    simp
  refine ⟨[first, second], by simpa [hline] using hmark, ?_⟩
  rw [hline, hpadded, htext, htext,
    load_of_short_line (n := 1) hlines hblank hmark hcomment (by simp [hd, hr.symm]) (by decide),
    load_of_short_line (n := 2) hlonger hblank hmark hcomment (by simp [hd, hr.symm]) (by decide)]
  simp

/-- **Blanks around the fields of a line do not matter.** The line stands anywhere in a text, with any
    other lines around it, and is a row, a comment, blank or faulty. The blanks are any but the delimiter and
    line feeds. If it is the first line, no byte order mark begins it. Just the dialects in which carriage
    returns separate fields are an exception. -/
theorem load_paddedLine_iff (hn : d.delimiter ≠ '\n') :
    d.delimiter ≠ '\r' ↔ ∀ (a rest : String) (fs : List (PaddedField d)),
      EndsLine a → AtLineEnd rest →
      (a = "" → (PaddedField.line fs).head? ≠ some byteOrderMark) →
      d.load (a ++ String.ofList (PaddedField.paddedLine fs) ++ rest) =
          d.load (a ++ String.ofList (PaddedField.line fs) ++ rest) ∧
        d.commentCount (a ++ String.ofList (PaddedField.paddedLine fs) ++ rest) =
          d.commentCount (a ++ String.ofList (PaddedField.line fs) ++ rest) := by
  constructor
  · intro hr a rest fs ha hrest hmark
    exact load_paddedLine hr hn ha hrest fs hmark
  · intro h hd
    obtain ⟨fs, hmark, hne⟩ := exists_load_paddedLine_ne hd
    exact hne (h "" "\n" fs (Or.inl rfl) (by decide) fun _ => hmark).1

/-- Fields between spaces, with tabs and carriage returns around them, behind a comment. -/
theorem load_paddedLine_iff_spaces :
    let d : Dialect := ⟨'#', ' ', .any⟩
    d.delimiter ≠ '\n' ∧
      d.load ("# c\n" ++ String.ofList "\t7\u2003 SUB\t \rT x\r".toList ++ "\r\n") =
        .ok [⟨7, "SUB", ⟨.two, .zero⟩, none, 2⟩] := by
  intro d
  have hn : d.delimiter ≠ '\n' := by decide
  let fs : List (PaddedField d) :=
    [⟨['\t'], ['7'], ['\u2003'], List.forall_mem_singleton.2 (by decide),
        List.forall_mem_singleton.2 (by decide), by decide, by decide⟩,
      ⟨[], "SUB".toList, ['\t'], by simp, List.forall_mem_singleton.2 (by decide), by decide, by decide⟩,
      ⟨['\r'], ['T'], [], List.forall_mem_singleton.2 (by decide), by simp, by decide, by decide⟩,
      ⟨[], ['x'], ['\r'], by simp, List.forall_mem_singleton.2 (by decide), by decide, by decide⟩]
  have hload : d.load "# c\n7 SUB T x\r\n" = .ok [⟨7, "SUB", ⟨.two, .zero⟩, none, 2⟩] := by
    subst d
    rfl
  have hline : "# c\n7 SUB T x\r\n" = "# c\n" ++ String.ofList (PaddedField.line fs) ++ "\r\n" := by
    decide
  have hpadded : "\t7\u2003 SUB\t \rT x\r".toList = PaddedField.paddedLine fs := by decide
  have hsame := (load_paddedLine_iff hn).1 (by decide) "# c\n" "\r\n" fs (by decide) (by decide)
    fun hempty => absurd hempty (by decide)
  rw [hline] at hload
  rw [hpadded]
  exact ⟨hn, hsame.1.trans hload⟩

end Dialect

end IsaTable
