import UiSchema.Json

/-! Arrays that go on after their end. The rows of a table are kept apart, and what lost its row is
put into rows again. -/

set_option autoImplicit false

namespace UiSchema.Json.Repair

def isArray : Json → Bool
  | .array _ => true
  | _ => false

def lengths (items : List Json) : List Nat :=
  items.filterMap fun
    | .array nested => some nested.length
    | _ => none

/-- The length that all arrays among the items have, when they are the rows of a table. -/
def rowLength? (items : List Json) : Option Nat :=
  match lengths items with
  | [] | 0 :: _ => none
  | length :: others => if others.all (· == length) then some length else none

/-- Items in rows of one length, if they fill them. -/
def inRows (length : Nat) (items : List Json) : List Json :=
  if items.length % length = 0 then
    (List.range (items.length / length)).map fun row =>
      .array ((items.drop (row * length)).take length)
  else items

/-- An array in an array stands for its items, unless it goes on with a table. -/
def joinItems (before added : List Json) : List Json :=
  match rowLength? before with
  | none => before ++ (match added with | [.array nested] => nested | _ => added)
  | some length =>
    let loose := (before.reverse.takeWhile fun item => !isArray item).length
    let rows := before.take (before.length - loose)
    let more := if added.isEmpty || added.all isArray then added else [.array added]
    rows ++ inRows length (before.drop (before.length - loose)) ++ more

/-- The items go on with the array that is the value of the last member. -/
def extendLast? (items : List Json) : Entries Json → Option (Entries Json)
  | [] => none
  | [(key, .array before)] =>
    if key.isEmpty then none else some [(key, .array (joinItems before items))]
  | [_] => none
  | member :: rest => (extendLast? items rest).map (member :: ·)

end UiSchema.Json.Repair
