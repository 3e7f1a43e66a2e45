import ConnPool.Json.Data

namespace ConnPool.Json

structure Reading where
  /-- The levels of arrays and objects that may still follow. -/
  depth : Nat
  /-- Whether an array may have more items than the record has fields. -/
  surplus : Bool
  /-- What may stand behind a word that is the key of an object. -/
  blank : Tree → Bool

def Reading.inside? (r : Reading) : Option Reading :=
  match r.depth with
  | 0 => none
  | d + 1 => some { r with depth := d }

def Tree.isNull : Tree → Bool
  | .null => true
  | _ => false

def Tree.isEmpty : Tree → Bool
  | .array [] => true
  | .object [] => true
  | _ => false

def Reading.json : Reading := ⟨nestingLimit, false, Tree.isNull⟩

/-- A field of a record: its key, and how its value changes the record. -/
structure Field (α : Type) where
  key : String
  set : Reading → Tree → α → Option α

/-- Applies the members of an object to a record. `seen` holds the keys met so far. -/
def readFields {α : Type} (fields : List (Field α)) (r : Reading) :
    List (Option String × Tree) → List String → α → Option (α × List String)
  | [], seen, x => some (x, seen)
  | (none, _) :: _, _, _ => none
  | (some k, t) :: ms, seen, x =>
    match fields.find? (·.key == k) with
    | none => readFields fields r ms seen x
    | some f =>
      if k ∈ seen then none
      else do
        let x ← f.set r t x
        readFields fields r ms (k :: seen) x

/-- Applies the items of an array to a record, field by field; the fields left over are answered
too. -/
def readItemsAsFields {α : Type} (r : Reading) :
    List (Field α) → List Tree → α → Option (α × List (Field α))
  | fields, [], x => some (x, fields)
  | [], _ :: _, x => if r.surplus then some (x, []) else none
  | f :: fields, t :: ts, x => do
    let x ← f.set r t x
    readItemsAsFields r fields ts x

/-- A record in which missing fields keep the value they have in `base`. -/
def readPartial {α : Type} (fields : List (Field α)) (base : α) (r : Reading) :
    Tree → Option α
  | .object members => do
    let r ← r.inside?
    (readFields fields r members [] base).map (·.1)
  | .array items => do
    let r ← r.inside?
    (readItemsAsFields r fields items base).map (·.1)
  | _ => none

def readWhole {α : Type} (fields : List (Field α)) (base : α) (r : Reading) : Tree → Option α
  | .object members => do
    let r ← r.inside?
    let (x, seen) ← readFields fields r members [] base
    if fields.all (fun f => seen.contains f.key) then some x else none
  | .array items => do
    let r ← r.inside?
    let (x, left) ← readItemsAsFields r fields items base
    if left.isEmpty then some x else none
  | _ => none

def readUInt64 : Tree → Option UInt64
  | .number n =>
    match n.toNumber? with
    | some (.integer i) => if 0 ≤ i then some (UInt64.ofNat i.toNat) else none
    | _ => none
  | _ => none

def readBool : Tree → Option Bool
  | .bool b => some b
  | _ => none

def readText : Tree → Option String
  | .string s => s
  | _ => none

def readNullable {α : Type} (read : Tree → Option α) : Tree → Option (Option α)
  | .null => some none
  | t => (read t).map some

def readTextMembers : List (Option String × Tree) → Option (List (String × String))
  | [] => some []
  | (k, t) :: ms => do
    let key ← k
    let value ← readText t
    let members ← readTextMembers ms
    some ((key, value) :: members)

def readTexts (r : Reading) : Tree → Option (List (String × String))
  | .object members => do
    let _ ← r.inside?
    readTextMembers members
  | _ => none

/-- One of several words: as a string, or as the only key of an object. -/
def readWord {α : Type} (word? : String → Option α) (r : Reading) : Tree → Option α
  | .string s => s.bind word?
  | .object [(k, t)] => do
    let r ← r.inside?
    if r.blank t then k.bind word? else none
  | _ => none

end ConnPool.Json
