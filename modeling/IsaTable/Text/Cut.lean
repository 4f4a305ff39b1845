/-
  Cutting lists at known parts.

  * `takeMap`: reads items as long as they can be read.
  * `afterStart?`: what follows a known beginning.
  * `beforeEnd?`: what precedes a known ending.
  * `between?`: what stands between a known beginning and a known ending.
  * `cutAt?`: the two sides of the first occurrence of a part.
-/
namespace IsaTable.Text

variable {α β : Type}

/-- Reads items as long as they can be read. -/
def takeMap (read : α → Option β) : List α → List β × List α
  | [] => ([], [])
  | a :: rest =>
    match read a with
    | none => ([], a :: rest)
    | some b => ((takeMap read rest).1.cons b, (takeMap read rest).2)

variable [DecidableEq α]

/-- What follows a known beginning. -/
def afterStart? : List α → List α → Option (List α)
  | [], rest => some rest
  | _ :: _, [] => none
  | a :: start, b :: rest => if a = b then afterStart? start rest else none

/-- What precedes a known ending. -/
def beforeEnd? (ending list : List α) : Option (List α) :=
  (afterStart? ending.reverse list.reverse).map List.reverse

/-- What stands between a known beginning and a known ending. -/
def between? (start ending list : List α) : Option (List α) :=
  (afterStart? start list).bind (beforeEnd? ending)

/-- The two sides of the first occurrence of a part. -/
def cutAt? (part : List α) : List α → Option (List α × List α)
  | [] => if part = [] then some ([], []) else none
  | a :: rest =>
    match afterStart? part (a :: rest) with
    | some after => some ([], after)
    | none => (cutAt? part rest).map fun (before, after) => (a :: before, after)

@[simp] theorem afterStart?_append (start rest : List α) :
    afterStart? start (start ++ rest) = some rest := by
  induction start with
  | nil => rfl
  | cons a start ih => simp [afterStart?, ih]

@[simp] theorem beforeEnd?_append (list ending : List α) :
    beforeEnd? ending (list ++ ending) = some list := by
  simp [beforeEnd?]

@[simp] theorem between?_append (start list ending : List α) :
    between? start ending (start ++ (list ++ ending)) = some list := by
  simp [between?]

end IsaTable.Text
