import ConnPool.Proofs.Compact

namespace ConnPool

namespace Json

mutual

/-- Data without doubles. Integers are the 64-bit ones, signed or unsigned. -/
def Exact : Json → Prop
  | .null | .bool _ | .string _ => True
  | .number (.integer i) => Int64.minValue.toInt ≤ i ∧ i < UInt64.size
  | .number (.float _) => False
  | .array items => ExactItems items
  | .object members => Text.Sorted members ∧ ExactMembers members

def ExactItems : List Json → Prop
  | [] => True
  | j :: js => j.Exact ∧ ExactItems js

def ExactMembers : List (String × Json) → Prop
  | [] => True
  | (_, j) :: ms => j.Exact ∧ ExactMembers ms

end

mutual

def levels : Json → Nat
  | .null | .bool _ | .number _ | .string _ => 0
  | .array items => levelsOfItems items + 1
  | .object members => levelsOfMembers members + 1

def levelsOfItems : List Json → Nat
  | [] => 0
  | j :: js => max j.levels (levelsOfItems js)

def levelsOfMembers : List (String × Json) → Nat
  | [] => 0
  | (_, j) :: ms => max j.levels (levelsOfMembers ms)

end

mutual

theorem writable_toTree : ∀ j : Json, j.Exact → j.toTree.Writable
  | .null, _ => trivial
  | .bool _, _ => trivial
  | .number (.integer i), _ => Numeral.spells_ofInt i
  | .string _, _ => rfl
  | .array items, h => writable_itemsToTree items h
  | .object members, h => writable_membersToTree members h.2

theorem writable_itemsToTree : ∀ js : List Json, ExactItems js →
    Tree.WritableItems (itemsToTree js)
  | [], _ => trivial
  | j :: js, h => ⟨writable_toTree j h.1, writable_itemsToTree js h.2⟩

theorem writable_membersToTree : ∀ ms : List (String × Json), ExactMembers ms →
    Tree.WritableMembers (membersToTree ms)
  | [], _ => trivial
  | (_, j) :: ms, h => ⟨rfl, writable_toTree j h.1, writable_membersToTree ms h.2⟩

end

mutual

/-- Data is found again in its tree, if so many levels are read. -/
theorem ofTree?_toTree : ∀ (j : Json) (depth : Nat), j.Exact →
    ofTree? depth j.toTree = if j.levels ≤ depth then some j else none
  | .null, _, _ => by simp [toTree, ofTree?, levels]
  | .bool _, _, _ => by simp [toTree, ofTree?, levels]
  | .number (.integer i), _, h => by
    simp [toTree, Tree.int, ofTree?, levels, Numeral.toNumber?_ofInt h.1 h.2]
  | .string _, _, _ => by simp [toTree, Tree.text, ofTree?, levels]
  | .array _, 0, _ => by simp [toTree, ofTree?, levels]
  | .array items, d + 1, h => by
    simp only [toTree, ofTree?, levels, itemsOfTree?_itemsToTree items d h,
      Nat.add_le_add_iff_right]
    split <;> rfl
  | .object _, 0, _ => by simp [toTree, ofTree?, levels]
  | .object members, d + 1, h => by
    simp only [toTree, ofTree?, levels, membersOfTree?_membersToTree members d h.2,
      Nat.add_le_add_iff_right]
    split
    · rw [Option.map_some, Text.Sorted.sortEntries h.1]
    · rfl

theorem itemsOfTree?_itemsToTree : ∀ (js : List Json) (depth : Nat), ExactItems js →
    itemsOfTree? depth (itemsToTree js) = if levelsOfItems js ≤ depth then some js else none
  | [], _, _ => by simp [itemsToTree, itemsOfTree?, levelsOfItems]
  | j :: js, depth, h => by
    simp only [itemsToTree, itemsOfTree?, levelsOfItems, ofTree?_toTree j depth h.1,
      itemsOfTree?_itemsToTree js depth h.2, Nat.max_le]
    by_cases first : j.levels ≤ depth <;> by_cases rest : levelsOfItems js ≤ depth <;>
      simp [first, rest]

theorem membersOfTree?_membersToTree : ∀ (ms : List (String × Json)) (depth : Nat),
    ExactMembers ms →
    membersOfTree? depth (membersToTree ms) =
      if levelsOfMembers ms ≤ depth then some ms else none
  | [], _, _ => by simp [membersToTree, membersOfTree?, levelsOfMembers]
  | (_, j) :: ms, depth, h => by
    simp only [membersToTree, membersOfTree?, levelsOfMembers, ofTree?_toTree j depth h.1,
      membersOfTree?_membersToTree ms depth h.2, Nat.max_le]
    by_cases first : j.levels ≤ depth <;> by_cases rest : levelsOfMembers ms ≤ depth <;>
      simp [first, rest]

end

end Json

namespace Value

def Exact : Value → Prop
  | float64 _ => False
  | json j => j.Exact
  | _ => True

/-- The levels of a value's document: one for the kind of value, but NULL is a bare word. -/
def levels : Value → Nat
  | null => 0
  | bytes _ => 2
  | json j => j.levels + 1
  | _ => 1

theorem writable_toTree {v : Value} (h : v.Exact) : v.toTree.Writable := by
  cases v with
  | null => exact rfl
  | bool b => exact ⟨rfl, trivial, trivial⟩
  | int32 i => exact ⟨rfl, Json.Tree.writable_int i.toInt, trivial⟩
  | int64 i => exact ⟨rfl, Json.Tree.writable_int i.toInt, trivial⟩
  | float64 x => exact h.elim
  | decimal s => exact ⟨rfl, rfl, trivial⟩
  | string s => exact ⟨rfl, rfl, trivial⟩
  | bytes bs =>
    refine ⟨rfl, ?_, trivial⟩
    induction bs with
    | nil => exact trivial
    | cons b bs ih => exact ⟨Json.Tree.writable_nat b.toNat, ih trivial⟩
  | json j => exact ⟨rfl, Json.writable_toTree j h, trivial⟩

/-- The member that names the kind of value is read one level further in. -/
theorem ofTree?_record {v : Value} {key : String} {t : Json.Tree} {n : Nat}
    (member : ∀ d, ofMember? d key t = if n ≤ d then some v else none) (depth : Nat) :
    ofTree? depth (.record [(key, t)]) = if n + 1 ≤ depth then some v else none := by
  cases depth with
  | zero => rfl
  | succ d =>
    simp only [Nat.add_le_add_iff_right]
    exact member d

theorem ofTree?_toTree {v : Value} (h : v.Exact) (depth : Nat) :
    ofTree? depth v.toTree = if v.levels ≤ depth then some v else none := by
  cases v with
  | null => simp [toTree, Json.Tree.text, ofTree?, levels]
  | bool b => exact ofTree?_record (n := 0) (fun d => by simp [ofMember?, Json.readBool]) depth
  | int32 i => exact ofTree?_record (n := 0) (fun d => by simp [ofMember?, readInt32_int]) depth
  | int64 i => exact ofTree?_record (n := 0) (fun d => by simp [ofMember?, readInt64_int]) depth
  | float64 x => exact h.elim
  | decimal s =>
    exact ofTree?_record (n := 0)
      (fun d => by simp [ofMember?, Json.readText, Json.Tree.text]) depth
  | string s =>
    exact ofTree?_record (n := 0)
      (fun d => by simp [ofMember?, Json.readText, Json.Tree.text]) depth
  | bytes bs =>
    refine ofTree?_record (n := 1) (fun d => ?_) depth
    cases d with
    | zero => simp [ofMember?, readBytes]
    | succ d => simp [ofMember?, readBytes_nat]
  | json j =>
    refine ofTree?_record (n := j.levels) (fun d => ?_) depth
    simp only [ofMember?, Json.ofTree?_toTree j d h]
    split <;> rfl

/-- The text of a value without doubles is read back as that value, unless it has more levels than
a text may have, and is the text of no other value without doubles. -/
theorem parse_toJsonText {v : Value} (exact : v.Exact) :
    parse v.toJsonText = (if v.levels ≤ Json.nestingLimit then some v else none) ∧
      ∀ w : Value, w.Exact → w.toJsonText = v.toJsonText → w = v := by
  have read := (writable_toTree exact).parse
  constructor
  · simp only [parse, toJsonText, read, Option.bind_eq_bind, Option.bind_some,
      ofTree?_toTree exact]
  · intro w exact' same
    have trees : w.toTree = v.toTree := by
      have read' := (writable_toTree exact').parse
      rw [show w.toTree.compact = v.toTree.compact from same, read] at read'
      exact (Option.some.inj read').symm
    have back := ofTree?_toTree exact (max v.levels w.levels)
    have back' := ofTree?_toTree exact' (max v.levels w.levels)
    rw [if_pos (Nat.le_max_left _ _)] at back
    rw [if_pos (Nat.le_max_right _ _), trees, back] at back'
    exact (Option.some.inj back').symm

/-- A value whose keys and strings have to be escaped, with the least and the greatest integer of
JSON data, and without doubles. -/
def sample : Value :=
  .json (.object
    [("", .array [.number (.integer Int64.minValue.toInt), .null]),
     ("\"\n", .number (.integer 18446744073709551615)),
     ("ключ", .array [.array [], .object [("\\", .string "\x01/\"")]])])

theorem parse_toJsonText_sample :
    parse sample.toJsonText = some sample ∧
      ∀ w : Value, w.Exact → w.toJsonText = sample.toJsonText → w = sample := by
  have exact : sample.Exact := by
    simp only [sample, Exact, Json.Exact, Json.ExactMembers, Json.ExactItems, Text.Sorted]
    decide
  have shallow : sample.levels ≤ Json.nestingLimit := by decide
  obtain ⟨read, only⟩ := parse_toJsonText exact
  exact ⟨read.trans (if_pos shallow), only⟩

end Value
end ConnPool
