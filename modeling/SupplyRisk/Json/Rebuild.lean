import SupplyRisk.Json.Value

/-!
# Rebuilding JSON trees

`rebuild?` gives a tree other leaves and, where a key is repeated, only its last member.  `distinct?` keeps the
leaves; it has no result if one of them denotes no value.
-/

namespace SupplyRisk.Json

/-- The last member of each key. -/
def lastMembers : List (String × Json) → List (String × Json)
  | [] => []
  | m :: ms => if (ms.map (·.1)).contains m.1 then lastMembers ms else m :: lastMembers ms

mutual

/-- The tree with other leaves and one member per key, unless a leaf has no other. -/
def rebuild? (leaf : Json → Option Json) : Json → Option Json
  | .array items => (rebuildItems? leaf items).map .array
  | .object members => (rebuildMembers? leaf members).map (fun ms => .object (lastMembers ms))
  | j => leaf j

def rebuildItems? (leaf : Json → Option Json) : List Json → Option (List Json)
  | [] => some []
  | item :: items => do
      let item ← rebuild? leaf item
      return item :: (← rebuildItems? leaf items)

def rebuildMembers? (leaf : Json → Option Json) : List (String × Json) → Option (List (String × Json))
  | [] => some []
  | (key, value) :: members => do
      let value ← rebuild? leaf value
      return (key, value) :: (← rebuildMembers? leaf members)

end

/-- A leaf that denotes a value. -/
def sound? : Json → Option Json
  | .unreadable => none
  | .number n => (ofNumeral? n).map (fun _ => .number n)
  | j => some j

/-- The tree with one member per key. -/
def distinct? (j : Json) : Option Json := j.rebuild? sound?

end SupplyRisk.Json
