import ConnPool.Json.Tree
import ConnPool.Toml.Value

namespace ConnPool.Toml

inductive Item where
  | value (v : Value)
  /-- `implicit` tables have no header of their own; `dotted` ones come from the dots of keys. -/
  | table (implicit dotted : Bool) (entries : List (String × Item))
  | tables (elements : List (List (String × Item)))

abbrev Entries := List (String × Item)

/-- Changes the table that a header's path leads to; of an array of tables the last one. Missing
tables are made on the way. -/
def within (change : Entries → Option Entries) : List String → Entries → Option Entries
  | [], entries => change entries
  | p :: path, entries =>
    match entries.lookup p with
    | none => do
      let inner ← within change path []
      some (entries ++ [(p, .table true false inner)])
    | some (.value _) => none
    | some (.table implicit dotted inner) => do
      let inner ← within change path inner
      some (replaceEntry p (.table implicit dotted inner) entries)
    | some (.tables elements) => do
      let inner ← within change path (elements.getLast?.getD [])
      some (replaceEntry p (.tables (elements.dropLast ++ [inner])) entries)

/-- Sets a key behind dots. `dotted` tells whether dots have made the table at hand, `direct`
whether the key has no dots. -/
def assign (direct : Bool) (k : String) (v : Item) :
    List String → Bool → Entries → Option Entries
  | [], dotted, entries =>
    if dotted = direct ∨ (entries.lookup k).isSome then none else some (entries ++ [(k, v)])
  | p :: path, _, entries =>
    match entries.lookup p with
    | none => do
      let inner ← assign direct k v path true []
      some (entries ++ [(p, .table true true inner)])
    | some (.value _) => none
    | some (.table implicit dotted inner) =>
      if implicit then do
        let inner ← assign direct k v path dotted inner
        some (replaceEntry p (.table implicit dotted inner) entries)
      else none
    | some (.tables elements) => do
      let inner ← assign direct k v path false (elements.getLast?.getD [])
      some (replaceEntry p (.tables (elements.dropLast ++ [inner])) entries)

/-- A document in the making: all finished tables, and the one that lines go to now. -/
structure Draft where
  root : Entries := []
  path : List String := []
  element : Bool := false
  table : Entries := []

namespace Draft

def close (d : Draft) : Option Entries :=
  if d.path = [] then some d.table
  else
    let (parent, name) := splitKey d.path
    within (fun entries =>
      match entries.lookup name with
      | none =>
        some (entries ++
          [(name, if d.element then .tables [d.table] else .table false false d.table)])
      | some (.tables elements) =>
        if d.element then some (replaceEntry name (.tables (elements ++ [d.table])) entries)
        else none
      | some _ => none) parent d.root

/-- `[path]`: a table that has no header yet. -/
def openTable (d : Draft) (path : List String) : Option Draft := do
  let root ← d.close
  let (parent, name) := splitKey path
  let root ← within (fun entries =>
    match entries.lookup name with
    | none => some entries
    | some (.table true false _) => some entries
    | some _ => none) parent root
  let inner := found parent name root
  let root ← within (fun entries => some (entries.filter (·.1 ≠ name))) parent root
  some ⟨root, path, false, inner⟩
where
  /-- The entries of a table that headers below it have made. -/
  found : List String → String → Entries → Entries
    | [], name, entries =>
      match entries.lookup name with
      | some (.table _ _ inner) => inner
      | _ => []
    | p :: path, name, entries =>
      match entries.lookup p with
      | some (.table _ _ inner) => found path name inner
      | some (.tables elements) => found path name (elements.getLast?.getD [])
      | _ => []

/-- `[[path]]`: a new element of an array of tables. -/
def openElement (d : Draft) (path : List String) : Option Draft := do
  let root ← d.close
  let (parent, name) := splitKey path
  let root ← within (fun entries =>
    match entries.lookup name with
    | none => some entries
    | some (.tables _) => some entries
    | some _ => none) parent root
  some ⟨root, path, true, []⟩

def set (d : Draft) (parts : List String) (v : Value) : Option Draft := do
  let (path, k) := splitKey parts
  let table ← assign (path == []) k (.value v) path false d.table
  some { d with table }

end Draft

def readLines : Nat → List Char → Draft → Option Entries
  | 0, _, _ => none
  | n + 1, s, d =>
    match skipBlank s with
    | [] => d.close
    | '#' :: rest => do readLines n (← lineEnd? ('#' :: rest)) d
    | '\n' :: rest => readLines n rest d
    | '\r' :: rest => do readLines n (← newline? ('\r' :: rest)) d
    | '[' :: '[' :: rest => do
      let (path, rest) ← readKey keyLimit rest
      let rest ← expect ']' (← expect ']' rest)
      let d ← d.openElement path
      readLines n (← lineEnd? rest) d
    | '[' :: rest => do
      let (path, rest) ← readKey keyLimit rest
      let rest ← expect ']' rest
      let d ← d.openTable path
      readLines n (← lineEnd? rest) d
    | s => do
      let (parts, rest) ← readKey keyLimit s
      let rest ← expect '=' rest
      let (v, rest) ← readValue (2 * s.length + 2) nestingLimit (skipBlank rest)
      let d ← d.set parts v
      readLines n (← lineEnd? rest) d

def readDocument (s : List Char) : Option Entries :=
  let s := match s with | '\ufeff' :: rest => rest | s => s
  readLines (s.length + 1) s {}

/-- The key under which a point in time stands where a table is looked for. -/
def datetimeKey : String := "$__toml_private_datetime"

mutual

def Value.toTree : Value → Json.Tree
  | .string s => .text s
  | .integer i => .int i
  | .float => .number ⟨false, ['0'], ['0'], none⟩
  | .bool b => .bool b
  | .datetime text => .record [(datetimeKey, .text text)]
  | .array items => .array (Value.toTrees items)
  | .table _ entries => .object (Value.toMembers entries)

def Value.toTrees : List Value → List Json.Tree
  | [] => []
  | v :: vs => v.toTree :: Value.toTrees vs

def Value.toMembers : List (String × Value) → List (Option String × Json.Tree)
  | [] => []
  | (k, v) :: es => (some k, v.toTree) :: Value.toMembers es

end

mutual

def Item.toTree : Item → Json.Tree
  | .value v => v.toTree
  | .table _ _ entries => .object (Item.toMembers entries)
  | .tables elements => .array (Item.toObjects elements)

def Item.toMembers : List (String × Item) → List (Option String × Json.Tree)
  | [] => []
  | (k, i) :: es => (some k, i.toTree) :: Item.toMembers es

def Item.toObjects : List (List (String × Item)) → List Json.Tree
  | [] => []
  | es :: rest => .object (Item.toMembers es) :: Item.toObjects rest

end

def parse (s : String) : Option Json.Tree :=
  (readDocument s.toList).map fun entries => .object (Item.toMembers entries)

end ConnPool.Toml
