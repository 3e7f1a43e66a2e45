import ConnPool.Value

namespace ConnPool

structure Row where
  columns : List String
  values : List Value
  deriving Repr

namespace Row

def get? (r : Row) (i : Nat) : Option Value := r.values[i]?

/-- The value in the first column of that name. -/
def getByName? (r : Row) (name : String) : Option Value := do
  let i ← r.columns.idxOf? name
  r.values[i]?

/-- The values by name, sorted; a later column of the same name replaces an earlier one. -/
def toMap (r : Row) : List (String × Value) := Text.sortEntries (r.columns.zip r.values)

end Row

structure Column where
  name : String := ""
  dataType : String := ""
  ordinal : UInt64 := 0
  deriving DecidableEq, Repr

namespace Column

def fields : List (Json.Field Column) :=
  [⟨"name", fun _ t c => (Json.readText t).map fun s => { c with name := s }⟩,
   ⟨"data_type", fun _ t c => (Json.readText t).map fun s => { c with dataType := s }⟩,
   ⟨"ordinal", fun _ t c => (Json.readUInt64 t).map fun n => { c with ordinal := n }⟩]

def ofTree? (r : Json.Reading) (t : Json.Tree) : Option Column :=
  Json.readPartial fields {} r t

def parseList (s : String) : Option (List Column) := do
  let r ← Json.Reading.json.inside?
  match ← Json.Tree.parse s with
  | .array items => items.mapM (ofTree? r)
  | _ => none

end Column

structure QueryResult where
  columns : List Column
  rows : List Row
  deriving Repr

namespace QueryResult

def empty : QueryResult := ⟨[], []⟩

def hasRows (q : QueryResult) : Bool := !q.rows.isEmpty

end QueryResult
end ConnPool
