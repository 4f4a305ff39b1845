/-
  JSON values, as far as tables are dumped with them.

  * `Json`: values with natural numbers, the members of an object in order.
-/
namespace IsaTable

/-- A JSON value. Numbers are natural, and the members of an object keep their order. -/
inductive Json where
  | null
  | number (n : Nat)
  | string (text : String)
  | array (items : List Json)
  | object (members : List (String × Json))

end IsaTable
