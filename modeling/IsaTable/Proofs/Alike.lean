/-
  Texts that are read alike.

  Of a line, loading sees two things: the first character that is no blank, which tells what kind of line
  it is, and the fields. Of a text, it sees the lines up to the last one that is not blank. So a text may
  be changed in all that loading does not see. The ends of its lines are an example.

  * `Dialect.Alike`, `Dialect.SameLines`: lines, and lists of lines, in which loading sees the same.
  * `Dialect.load_congr`: what is read alike gives the same records, or the same error.
  * `Text.withReturns`, `lines_withReturns`: a text whose line feeds have carriage returns before them.
  * `Dialect.load_withReturns_iff`: line ends do not matter unless carriage returns separate fields.
-/
import IsaTable.Proofs.RowErrors
import IsaTable.Proofs.Trimming
import Mathlib.Data.List.TakeWhile

namespace IsaTable

/-! ## Lines -/

/-- Trimmed text begins with the first character that is no blank. -/
theorem Text.head?_trim_eq_find? (cs : List Char) :
    (trim cs).head? = cs.find? fun c => !isBlank c := by
  have hstart : (cs.find? fun c => !isBlank c) = (trimStart cs).head? :=
    List.find?_not_eq_head?_dropWhile isBlank cs
  rw [hstart, trim]
  cases hcs : trimStart cs with
  | nil => rfl
  | cons c rest =>
    rw [trimEnd_cons (isBlank_of_trimStart_eq_cons hcs)]
    rfl

namespace Dialect

/-- Two lines in which loading sees the same. -/
structure Alike (d : Dialect) (l m : List Char) : Prop where
  head? : (Text.trim l).head? = (Text.trim m).head?
  fields : d.fields l = d.fields m

namespace Alike

variable {d : Dialect} {l m : List Char}

theorem refl (l : List Char) : d.Alike l l :=
  ⟨rfl, rfl⟩

theorem symm (h : d.Alike l m) : d.Alike m l :=
  ⟨h.head?.symm, h.fields.symm⟩

theorem trans {k : List Char} (h : d.Alike k l) (h' : d.Alike l m) : d.Alike k m :=
  ⟨h.head?.trans h'.head?, h.fields.trans h'.fields⟩

variable (h : d.Alike l m)
include h

theorem isBlankLine_eq : isBlankLine l = isBlankLine m := by
  rw [Bool.eq_iff_iff, isBlankLine, isBlankLine, List.isEmpty_iff, List.isEmpty_iff,
    ← List.head?_eq_none_iff, ← List.head?_eq_none_iff, h.head?]

theorem isComment_eq : d.isComment l = d.isComment m := by
  rw [isComment, isComment, h.head?]

theorem isData_eq : d.isData l = d.isData m := by
  rw [isData, isData, h.isBlankLine_eq, h.isComment_eq]

theorem readRow_eq (line : Nat) : d.readRow line l = d.readRow line m := by
  rw [readRow, readRow, h.fields]

end Alike

/-- A blank at the end of a line is not seen unless it separates fields. -/
theorem alike_append_blank {d : Dialect} {b : Char} (hb : Text.isBlank b = true)
    (hd : b ≠ d.delimiter) (l : List Char) : d.Alike l (l ++ [b]) where
  head? := by rw [Text.trim_append_blank (List.forall_mem_singleton.2 hb)]
  fields := (fields_append_blank hb hd l).symm

theorem alike_dropReturn {d : Dialect} (hd : d.delimiter ≠ '\r') (l : List Char) :
    d.Alike (Text.dropReturn l) l := by
  rcases Text.dropReturn_cases l with ⟨m, rfl, hm⟩ | ⟨-, hl⟩
  · rw [hm]
    exact alike_append_blank (by decide) hd.symm m
  · rw [hl]
    exact .refl l

/-! ## Texts -/

/-- The lines of a text, and those of another one in which loading sees the same. The second one may end
    with more blank lines. -/
inductive SameLines (d : Dialect) : List (List Char) → List (List Char) → Prop
  | nil : SameLines d [] []
  | blank {m : List Char} {ms : List (List Char)} : isBlankLine m = true → SameLines d [] ms →
      SameLines d [] (m :: ms)
  | cons {l m : List Char} {ls ms : List (List Char)} : d.Alike l m → SameLines d ls ms →
      SameLines d (l :: ls) (m :: ms)

namespace SameLines

variable {d : Dialect} {ls ms : List (List Char)}

theorem of_forall₂ (h : List.Forall₂ d.Alike ls ms) : d.SameLines ls ms := by
  induction h with
  | nil => exact .nil
  | cons hlm _ ih => exact .cons hlm ih

theorem refl (ls : List (List Char)) : d.SameLines ls ls :=
  of_forall₂ (List.forall₂_same.2 fun l _ => Alike.refl l)

theorem append_left (ks : List (List Char)) (h : d.SameLines ls ms) :
    d.SameLines (ks ++ ls) (ks ++ ms) := by
  induction ks with
  | nil => exact h
  | cons k ks ih => exact .cons (.refl k) ih

/-- The rows are the same, whatever number the first line has. -/
theorem mapM_readRow_eq (h : d.SameLines ls ms) (n : Nat) :
    ((ms.zipIdx n).filter fun p => d.isData p.1).mapM (fun p => d.readRow p.2 p.1) =
      ((ls.zipIdx n).filter fun p => d.isData p.1).mapM fun p => d.readRow p.2 p.1 := by
  induction h generalizing n with
  | nil => rfl
  | blank hm _ ih =>
    rw [List.zipIdx_cons, List.filter_cons, if_neg (not_isData_of_isBlankLine hm)]
    exact ih (n + 1)
  | @cons l m ls ms hlm _ ih =>
    rw [List.zipIdx_cons, List.zipIdx_cons, List.filter_cons, List.filter_cons]
    by_cases hdata : d.isData l = true
    · rw [if_pos (hlm.isData_eq ▸ hdata), if_pos hdata, List.mapM_cons, List.mapM_cons, ih,
        hlm.readRow_eq]
    · rw [if_neg (hlm.isData_eq ▸ hdata), if_neg hdata]
      exact ih (n + 1)

theorem countP_isComment_eq (h : d.SameLines ls ms) :
    ms.countP d.isComment = ls.countP d.isComment := by
  induction h with
  | nil => rfl
  | blank hm _ ih =>
    rw [List.countP_cons, ih, isComment_of_isBlankLine hm]
    rfl
  | cons hlm _ ih => rw [List.countP_cons, List.countP_cons, ih, hlm.isComment_eq]

end SameLines

/-- **What is read alike gives the same:** the same records or error, and as many comments. -/
theorem load_congr {d : Dialect} {s s' : String} (h : d.SameLines (specLines s) (specLines s')) :
    d.load s' = d.load s ∧ d.commentCount s' = d.commentCount s :=
  ⟨h.mapM_readRow_eq 1, h.countP_isComment_eq⟩

end Dialect

/-! ## Line ends -/

namespace Text

/-- A text whose line feeds have carriage returns put before them. -/
def withReturns (cs : List Char) : List Char :=
  cs.flatMap fun c => if c = '\n' then ['\r', '\n'] else [c]

theorem withReturns_newline (cs : List Char) :
    withReturns ('\n' :: cs) = '\r' :: '\n' :: withReturns cs := rfl

theorem withReturns_cons {c : Char} (hc : c ≠ '\n') (cs : List Char) :
    withReturns (c :: cs) = c :: withReturns cs := by
  rw [withReturns, List.flatMap_cons, if_neg hc]
  rfl

theorem head?_withReturns_ne (cs : List Char) : (withReturns cs).head? ≠ some '\n' := by
  cases cs with
  | nil => simp [withReturns]
  | cons c cs =>
    by_cases hc : c = '\n'
    · subst hc
      simp [withReturns_newline]
    · simpa [withReturns_cons hc] using hc

/-- The second line is the first one, perhaps with a carriage return at its end. -/
def MaybeReturned (l m : List Char) : Prop :=
  m = l ∨ m = l ++ ['\r']

theorem forall₂_extendFirst {ls ms : List (List Char)} (c : Char)
    (h : List.Forall₂ MaybeReturned ls ms) :
    List.Forall₂ MaybeReturned (extendFirst c ls) (extendFirst c ms) := by
  cases h with
  | nil => exact .cons (.inl rfl) .nil
  | cons hlm hrest =>
    refine .cons ?_ hrest
    rcases hlm with rfl | rfl
    · exact .inl rfl
    · exact .inr rfl

/-- **With more carriage returns,** a text has the same lines, some with a carriage return at their
    ends. -/
theorem lines_withReturns (cs : List Char) :
    List.Forall₂ MaybeReturned (lines cs) (lines (withReturns cs)) := by
  fun_induction lines cs with
  | case1 => exact .nil
  | case2 cs ih =>
    rw [withReturns_newline, lines_return_newline]
    exact .cons (.inl rfl) ih
  | case3 cs ih =>
    -- of two carriage returns, the first one is left
    have hline : lines ('\r' :: '\r' :: '\n' :: withReturns cs) = ['\r'] :: lines (withReturns cs) :=
      lines_append_return_newline (l := ['\r']) (by decide) (withReturns cs)
    rw [withReturns_cons (by decide), withReturns_newline, hline]
    exact .cons (.inr rfl) ih
  | case4 c cs hn hr ih =>
    have hnext : ∀ ds, c = '\r' → withReturns cs ≠ '\n' :: ds := fun ds _ h =>
      head?_withReturns_ne cs (by rw [h]; rfl)
    rw [withReturns_cons hn, lines_cons hn hnext]
    exact forall₂_extendFirst c ih

end Text

/-- Byte order marks are dropped as before. -/
theorem maybeReturned_dropMarks {l m : List Char} (h : Text.MaybeReturned l m) :
    Text.MaybeReturned (l.dropWhile (· = byteOrderMark)) (m.dropWhile (· = byteOrderMark)) := by
  rcases h with rfl | rfl
  · exact .inl rfl
  · refine .inr ?_
    rw [List.dropWhile_append]
    split
    · next hnil =>
      rw [List.isEmpty_iff.1 hnil]
      decide
    · rfl

/-- The lines of a specification whose line feeds have carriage returns before them. -/
theorem specLines_withReturns (source : String) :
    List.Forall₂ Text.MaybeReturned (specLines source)
      (specLines (String.ofList (Text.withReturns source.toList))) := by
  rw [specLines, specLines, String.toList_ofList]
  generalize hls : Text.lines source.toList = ls
  generalize hms : Text.lines (Text.withReturns source.toList) = ms
  have hlines := Text.lines_withReturns source.toList
  rw [hls, hms] at hlines
  cases hlines with
  | nil => exact .nil
  | cons hfirst hrest => exact .cons (maybeReturned_dropMarks hfirst) hrest

theorem Layout.not_admits_of_lt {l : Layout} {n : Nat} (h : n < 4) : ¬ l.Admits n := by
  cases l <;> simp only [Admits] <;> omega

namespace Dialect

/-- One line with too few fields. -/
theorem load_of_short_line {d : Dialect} {text rest : List Char} {c : Char} {n : Nat}
    (hlines : Text.lines text = [c :: rest]) (hblank : Text.isBlank c = false)
    (hmark : c ≠ byteOrderMark) (hcomment : c ≠ d.comment)
    (hcount : (c :: rest).count d.delimiter + 1 = n) (hn : n < 4) :
    d.load (String.ofList text) = .error ⟨1, .fieldCount d.layout n⟩ := by
  subst hcount
  have hdata : d.DataLine (String.ofList text) 1 (c :: rest) := by
    refine dataLine_of_head? (by rw [String.toList_ofList, hlines]; rfl) ?_
      (Text.head?_trim rfl hblank) hcomment
    rw [if_pos rfl, List.dropWhile_cons_of_neg (by simpa using hmark)]
  refine load_eq_error_iff.2 ⟨c :: rest, hdata, .fieldCount (Layout.not_admits_of_lt hn), ?_⟩
  rintro m hm other ⟨i, _, rfl, _⟩
  have hlt : i + 1 < 1 := hm
  omega

/-- In each dialect, some visible character begins no comment. -/
theorem exists_visible (d : Dialect) : ∃ c : Char, Text.isBlank c = false ∧ c ≠ byteOrderMark ∧
    c ≠ d.comment ∧ '\n' ≠ c ∧ '\r' ≠ c := by
  by_cases hx : 'x' = d.comment
  · exact ⟨'y', by decide, by decide, fun hy => absurd (hx.trans hy.symm) (by decide), by decide,
      by decide⟩
  · exact ⟨'x', by decide, by decide, hx, by decide, by decide⟩

/-- Where carriage returns separate fields, one more at the end of a line makes one more field. -/
theorem exists_load_withReturns_ne {d : Dialect} (hd : d.delimiter = '\r') :
    ∃ source : String, d.load (String.ofList (Text.withReturns source.toList)) ≠ d.load source := by
  obtain ⟨c, hblank, hmark, hcomment, hn, hr⟩ := d.exists_visible
  have hline : Text.lines [c, '\r', '\n'] = [[c]] :=
    Text.lines_append_return_newline (l := [c]) (by simpa using hn) []
  have hlonger : Text.lines (Text.withReturns [c, '\r', '\n']) = [[c, '\r']] := by
    rw [Text.withReturns_cons hn.symm]
    exact Text.lines_append_return_newline (l := [c, '\r']) (by simpa using hn) []
  refine ⟨String.ofList [c, '\r', '\n'], ?_⟩
  rw [String.toList_ofList,
    load_of_short_line (n := 1) hline hblank hmark hcomment (by simp [hd, hr.symm]) (by decide),
    load_of_short_line (n := 2) hlonger hblank hmark hcomment (by simp [hd, hr.symm]) (by decide)]
  simp

/-- **Line ends do not matter.** With a carriage return put before each line feed, a text gives the same
    records or the same error, and has as many comments, whatever carriage returns it held before. Just the
    dialects in which carriage returns separate fields are an exception. -/
theorem load_withReturns_iff (d : Dialect) :
    d.delimiter ≠ '\r' ↔ ∀ source : String,
      d.load (String.ofList (Text.withReturns source.toList)) = d.load source ∧
        d.commentCount (String.ofList (Text.withReturns source.toList)) = d.commentCount source := by
  constructor
  · intro hd source
    refine load_congr (.of_forall₂ ((specLines_withReturns source).imp fun l m hlm => ?_))
    rcases hlm with rfl | rfl
    · exact .refl m
    · exact alike_append_blank (by decide) hd.symm l
  · intro h hd
    obtain ⟨source, hne⟩ := exists_load_withReturns_ne hd
    exact hne (h source).1

end Dialect

end IsaTable
