/-
  Reading JSON text.

  Blanks may stand between any two tokens. Strings may use all escapes of JSON, pairs of surrogates
  included. Of the numbers only the natural ones are read, without leading zeros.

  * `Json.readString?`: the rest of a string behind its opening quote.
  * `Json.ofText?`: the value that a text denotes.
-/
import IsaTable.Json.Basic
import IsaTable.Text.Quoted

namespace IsaTable.Json

/-- The blanks between tokens. -/
def isSpace (c : Char) : Bool :=
  c = ' ' || c = '\n' || c = '\r' || c = '\t'

/-- Skips blanks. -/
def skipSpace (cs : List Char) : List Char :=
  cs.dropWhile isSpace

/-! ## Strings -/

/-- The character that a letter behind a backslash stands for. -/
def shortEscape? (c : Char) : Option Char :=
  if c = '"' then some '"'
  else if c = '\\' then some '\\'
  else if c = '/' then some '/'
  else if c = 'b' then some '\x08'
  else if c = 'f' then some '\x0c'
  else if c = 'n' then some '\n'
  else if c = 'r' then some '\r'
  else if c = 't' then some '\t'
  else none

/-- The code point of a pair of surrogates. -/
def joinSurrogates? (high low : Nat) : Option Nat :=
  if 0xD800 ≤ high ∧ high < 0xDC00 ∧ 0xDC00 ≤ low ∧ low < 0xE000 then
    some (0x10000 + (high - 0xD800) * 0x400 + (low - 0xDC00))
  else none

/-- What the next character of a string belongs to. -/
inductive StringState where
  | plain
  /-- Behind a backslash. -/
  | escaped
  /-- Among the four digits of an escape, behind a first surrogate if there is one. -/
  | code (high : Option Nat) (digits : List Char)
  /-- Before the backslash of a second surrogate. -/
  | second (high : Nat)
  /-- Before the letter of a second surrogate. -/
  | secondEscaped (high : Nat)

/-- The state after the four digits of an escape, with the character that it gives. -/
def endCode? (high : Option Nat) (digits : List Char) : Option (StringState × List Char) := do
  let n ← Text.valueOf? 16 digits
  match high with
  | some high => return (.plain, [← (joinSurrogates? high n).bind Text.charOfCode?])
  | none =>
    if 0xD800 ≤ n ∧ n < 0xDC00 then return (.second n, [])
    else return (.plain, [← Text.charOfCode? n])

/-- The string behind an opening quote, and the text behind its closing quote. -/
def readStringFrom? : StringState → List Char → Option (List Char × List Char)
  | _, [] => none
  | .plain, c :: cs =>
    if c = '"' then some ([], cs)
    else if c = '\\' then readStringFrom? .escaped cs
    else if c.toNat < 0x20 then none
    else (readStringFrom? .plain cs).map fun (text, rest) => (c :: text, rest)
  | .escaped, c :: cs =>
    match shortEscape? c with
    | some d => (readStringFrom? .plain cs).map fun (text, rest) => (d :: text, rest)
    | none => if c = 'u' then readStringFrom? (.code none []) cs else none
  | .code high digits, c :: cs =>
    if digits.length < 3 then readStringFrom? (.code high (digits ++ [c])) cs
    else
      (endCode? high (digits ++ [c])).bind fun (state, chars) =>
        (readStringFrom? state cs).map fun (text, rest) => (chars ++ text, rest)
  | .second high, c :: cs => if c = '\\' then readStringFrom? (.secondEscaped high) cs else none
  | .secondEscaped high, c :: cs =>
    if c = 'u' then readStringFrom? (.code (some high) []) cs else none

/-- The string behind an opening quote, and the text behind its closing quote. -/
def readString? (cs : List Char) : Option (String × List Char) :=
  (readStringFrom? .plain cs).map fun (text, rest) => (String.ofList text, rest)

/-! ## Values -/

/-- A natural number at the start of a text, and the text behind it. -/
def readNumber? (cs : List Char) : Option (Nat × List Char) :=
  let digits := cs.takeWhile Char.isDigit
  if digits = [] ∨ digits.head? = some '0' ∧ digits.length ≠ 1 then none
  else (Text.valueOf? 10 digits).map fun n => (n, cs.dropWhile Char.isDigit)

mutual

/-- A value at the start of a text, and the text behind it. The first argument bounds the depth and
    the number of items. -/
def readValue? : Nat → List Char → Option (Json × List Char)
  | 0, _ => none
  | fuel + 1, cs =>
    match skipSpace cs with
    | 'n' :: 'u' :: 'l' :: 'l' :: rest => some (.null, rest)
    | '"' :: rest => (readString? rest).map fun (text, rest) => (.string text, rest)
    | '[' :: rest =>
      match skipSpace rest with
      | ']' :: rest => some (.array [], rest)
      | _ => do
        let (item, rest) ← readValue? fuel rest
        let (items, rest) ← readItems? fuel rest
        return (.array (item :: items), rest)
    | '\x7b' :: rest =>
      match skipSpace rest with
      | '\x7d' :: rest => some (.object [], rest)
      | _ => do
        let (member, rest) ← readMember? fuel rest
        let (members, rest) ← readMembers? fuel rest
        return (.object (member :: members), rest)
    | cs => (readNumber? cs).map fun (n, rest) => (.number n, rest)

/-- The items of an array after the first, and the text behind the array. -/
def readItems? : Nat → List Char → Option (List Json × List Char)
  | 0, _ => none
  | fuel + 1, cs =>
    match skipSpace cs with
    | ']' :: rest => some ([], rest)
    | ',' :: rest => do
      let (item, rest) ← readValue? fuel rest
      let (items, rest) ← readItems? fuel rest
      return (item :: items, rest)
    | _ => none

/-- A member of an object, and the text behind it. -/
def readMember? : Nat → List Char → Option ((String × Json) × List Char)
  | 0, _ => none
  | fuel + 1, cs =>
    match skipSpace cs with
    | '"' :: rest => do
      let (key, rest) ← readString? rest
      match skipSpace rest with
      | ':' :: rest =>
        let (value, rest) ← readValue? fuel rest
        return ((key, value), rest)
      | _ => none
    | _ => none

/-- The members of an object after the first, and the text behind the object. -/
def readMembers? : Nat → List Char → Option (List (String × Json) × List Char)
  | 0, _ => none
  | fuel + 1, cs =>
    match skipSpace cs with
    | '\x7d' :: rest => some ([], rest)
    | ',' :: rest => do
      let (member, rest) ← readMember? fuel rest
      let (members, rest) ← readMembers? fuel rest
      return (member :: members, rest)
    | _ => none

end

/-- The value that a text denotes. Each step down reads at least one character, so the length of the
    text bounds them all. -/
def ofText? (text : String) : Option Json :=
  match readValue? (text.length + 1) text.toList with
  | some (value, rest) => if skipSpace rest = [] then some value else none
  | none => none

end IsaTable.Json
