import ConnPool.Json.Fields

namespace ConnPool

inductive Value where
  | null
  | bool (b : Bool)
  | int32 (i : Int32)
  | int64 (i : Int64)
  | float64 (x : Double)
  /-- A decimal number, kept as text for precision. -/
  | decimal (s : String)
  | string (s : String)
  | bytes (b : List UInt8)
  | json (j : Json)
  deriving Repr

namespace Value

def isNull : Value → Bool
  | null => true
  | _ => false

def asString? : Value → Option String
  | string s => some s
  | _ => none

def asInt64? : Value → Option Int64
  | int32 i => some i.toInt64
  | int64 i => some i
  | bool b => some (if b then 1 else 0)
  | _ => none

def asDouble? : Value → Option Double
  | float64 x => some x
  | int32 i => some (Double.ofInt i.toInt)
  | int64 i => some (Double.ofInt i.toInt)
  | _ => none

def text : Value → String
  | null => "NULL"
  | bool b => if b then "true" else "false"
  | int32 i => String.ofList (Text.ofInt i.toInt)
  | int64 i => String.ofList (Text.ofInt i.toInt)
  | float64 x => String.ofList x.plainText
  | decimal s => s
  | string s => s
  | bytes b => "<" ++ String.ofList (Text.ofNat b.length) ++ " bytes>"
  | json j => j.text

/-- Equality of values; doubles are compared as numbers. -/
def same : Value → Value → Bool
  | null, null => true
  | bool a, bool b => a == b
  | int32 a, int32 b => a == b
  | int64 a, int64 b => a == b
  | float64 a, float64 b => a.same b
  | decimal a, decimal b => a == b
  | string a, string b => a == b
  | bytes a, bytes b => a == b
  | json a, json b => a.same b
  | _, _ => false

def toTree : Value → Json.Tree
  | null => .text "Null"
  | bool b => .record [("Bool", .bool b)]
  | int32 i => .record [("Int32", .int i.toInt)]
  | int64 i => .record [("Int64", .int i.toInt)]
  | float64 x =>
    .record [("Float64", if x.isFinite then .number (.ofDouble x) else .null)]
  | decimal s => .record [("Decimal", .text s)]
  | string s => .record [("String", .text s)]
  | bytes b => .record [("Bytes", .array (b.map fun n => .nat n.toNat))]
  | json j => .record [("Json", j.toTree)]

def readInteger (low high : Int) : Json.Tree → Option Int
  | .number n =>
    match n.toNumber? with
    | some (.integer i) => if low ≤ i ∧ i ≤ high then some i else none
    | _ => none
  | _ => none

def readInt32 (t : Json.Tree) : Option Int32 :=
  (readInteger Int32.minValue.toInt Int32.maxValue.toInt t).map Int32.ofInt

def readInt64 (t : Json.Tree) : Option Int64 :=
  (readInteger Int64.minValue.toInt Int64.maxValue.toInt t).map Int64.ofInt

def readDouble : Json.Tree → Option Double
  | .number n => n.toNumber?.map (·.toDouble)
  | _ => none

def readBytes (depth : Nat) : Json.Tree → Option (List UInt8)
  | .array items =>
    match depth with
    | 0 => none
    | _ + 1 =>
      (items.mapM (readInteger 0 255)).map fun is => is.map fun i => UInt8.ofNat i.toNat
  | _ => none

def ofMember? (depth : Nat) (key : String) (t : Json.Tree) : Option Value :=
  match key with
  | "Null" => match t with | .null => some null | _ => none
  | "Bool" => (Json.readBool t).map bool
  | "Int32" => (readInt32 t).map int32
  | "Int64" => (readInt64 t).map int64
  | "Float64" => (readDouble t).map float64
  | "Decimal" => (Json.readText t).map decimal
  | "String" => (Json.readText t).map string
  | "Bytes" => (readBytes depth t).map bytes
  | "Json" => (Json.ofTree? depth t).map json
  | _ => none

def ofTree? (depth : Nat) : Json.Tree → Option Value
  | .string (some "Null") => some null
  | .object [(some key, t)] =>
    match depth with
    | 0 => none
    | d + 1 => ofMember? d key t
  | _ => none

def toJsonText (v : Value) : String := v.toTree.compact

def parse (s : String) : Option Value := do ofTree? Json.nestingLimit (← Json.Tree.parse s)

end Value
end ConnPool
