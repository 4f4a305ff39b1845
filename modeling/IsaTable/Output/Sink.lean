/-
  Destinations of rendered text.

  Text is written piece by piece and character by character. A sink with limited room takes
  characters until it is full, and refuses the next one.

  * `Sink.write`, `Sink.writeAll`: one piece, and several in order; on refusal the sink is handed
    back as it stands.
  * `Sink.writeLine`, `Sink.writeLines`: lines with their ends.
  * `Sink.writeAll_of_unbounded`: without a limit everything is taken.
-/
namespace IsaTable

/-- A destination of text: what it holds, and how many characters it still takes, any number of them
    if the room is `none`. -/
structure Sink where
  room : Option Nat
  text : String
deriving DecidableEq

namespace Sink

/-- An empty sink that takes any text. -/
def unbounded : Sink :=
  ⟨none, ""⟩

/-- An empty sink that takes so many characters. -/
def bounded (room : Nat) : Sink :=
  ⟨some room, ""⟩

/-- Takes a character, unless the sink is full. -/
def put (s : Sink) (c : Char) : Except Sink Sink :=
  match s.room with
  | none => .ok ⟨none, s.text.push c⟩
  | some 0 => .error s
  | some (room + 1) => .ok ⟨some room, s.text.push c⟩

/-- Takes the characters of a piece in order. -/
def write (s : Sink) (piece : String) : Except Sink Sink :=
  piece.toList.foldlM put s

/-- Takes pieces in order. -/
def writeAll (s : Sink) (pieces : List String) : Except Sink Sink :=
  pieces.foldlM write s

/-- Takes a line and its end. -/
def writeLine (s : Sink) (line : String) : Except Sink Sink :=
  s.write (line ++ "\n")

/-- Takes lines in order. -/
def writeLines (s : Sink) (lines : List String) : Except Sink Sink :=
  lines.foldlM writeLine s

theorem foldlM_put_of_unbounded (text : String) (cs : List Char) :
    cs.foldlM put ⟨none, text⟩ = .ok ⟨none, text ++ String.ofList cs⟩ := by
  induction cs generalizing text with
  | nil => simp [pure, Except.pure]
  | cons c cs ih =>
    rw [List.foldlM_cons]
    have hput : put ⟨none, text⟩ c = .ok ⟨none, text.push c⟩ := rfl
    have hcat : text.push c ++ String.ofList cs = text ++ String.ofList (c :: cs) := by
      apply String.toList_inj.1
      simp
    rw [hput, ← hcat]
    exact ih (text.push c)

@[simp] theorem write_of_unbounded (text piece : String) :
    write ⟨none, text⟩ piece = .ok ⟨none, text ++ piece⟩ := by
  simp [write, foldlM_put_of_unbounded]

/-- **Without a limit everything is taken,** and the sink holds the pieces one after the other. -/
theorem writeAll_of_unbounded (text : String) (pieces : List String) :
    writeAll ⟨none, text⟩ pieces = .ok ⟨none, pieces.foldl (· ++ ·) text⟩ := by
  induction pieces generalizing text with
  | nil => rfl
  | cons piece pieces ih =>
    rw [writeAll, List.foldlM_cons, write_of_unbounded]
    exact ih (text ++ piece)

end Sink

end IsaTable
