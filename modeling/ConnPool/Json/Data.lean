import ConnPool.Json.Number
import ConnPool.Json.Printer
import ConnPool.Json.Reader
import ConnPool.Text.Entries

namespace ConnPool

/-- The members of an object are sorted by key. -/
inductive Json where
  | null
  | bool (b : Bool)
  | number (n : Json.Number)
  | string (s : String)
  | array (items : List Json)
  | object (members : List (String × Json))
  deriving Repr

namespace Json

/-- The number of arrays and objects that may stand inside one another. -/
def nestingLimit : Nat := 127

mutual

/-- What a tree denotes, if it has no more than `depth` levels. Of members with the same key the
last one counts. -/
def ofTree? (depth : Nat) : Tree → Option Json
  | .null => some .null
  | .bool b => some (.bool b)
  | .number n => n.toNumber?.map .number
  | .string s => s.map .string
  | .array items =>
    match depth with
    | 0 => none
    | d + 1 => (itemsOfTree? d items).map .array
  | .object members =>
    match depth with
    | 0 => none
    | d + 1 => (membersOfTree? d members).map fun ms => .object (Text.sortEntries ms)

def itemsOfTree? (depth : Nat) : List Tree → Option (List Json)
  | [] => some []
  | t :: ts => do
    let item ← ofTree? depth t
    let items ← itemsOfTree? depth ts
    some (item :: items)

def membersOfTree? (depth : Nat) : List (Option String × Tree) → Option (List (String × Json))
  | [] => some []
  | (k, t) :: ms => do
    let key ← k
    let value ← ofTree? depth t
    let members ← membersOfTree? depth ms
    some ((key, value) :: members)

end

mutual

def toTree : Json → Tree
  | .null => .null
  | .bool b => .bool b
  | .number (.integer i) => .int i
  | .number (.float x) => .number (.ofDouble x)
  | .string s => .text s
  | .array items => .array (itemsToTree items)
  | .object members => .object (membersToTree members)

def itemsToTree : List Json → List Tree
  | [] => []
  | j :: js => j.toTree :: itemsToTree js

def membersToTree : List (String × Json) → List (Option String × Tree)
  | [] => []
  | (k, j) :: ms => (some k, j.toTree) :: membersToTree ms

end

mutual

def same : Json → Json → Bool
  | .null, .null => true
  | .bool a, .bool b => a == b
  | .number a, .number b => a.same b
  | .string a, .string b => a == b
  | .array a, .array b => sameItems a b
  | .object a, .object b => sameMembers a b
  | _, _ => false

def sameItems : List Json → List Json → Bool
  | [], [] => true
  | a :: as, b :: bs => a.same b && sameItems as bs
  | _, _ => false

def sameMembers : List (String × Json) → List (String × Json) → Bool
  | [], [] => true
  | (k, a) :: as, (l, b) :: bs => k == l && a.same b && sameMembers as bs
  | _, _ => false

end

def parse (s : String) : Option Json := do ofTree? nestingLimit (← Tree.parse s)

def text (j : Json) : String := j.toTree.compact

end Json
end ConnPool
