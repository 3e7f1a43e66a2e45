import ConnPool.Json.Printer
import ConnPool.Proofs.Integers

namespace ConnPool.Json

theorem hexValue?_hexDigit {n : Nat} (h : n < 16) : hexValue? (hexDigit n) = some n := by
  have all : ∀ n < 16, hexValue? (hexDigit n) = some n := by decide
  exact all n h

theorem spells_escape (c : Char) {us : List Piece} {s : List Char} (h : Spells us s) :
    Spells (some c :: us) (escape c ++ s) := by
  unfold escape
  split
  case h_8 =>
    rename_i quote mark _ _ _ _ _
    split
    · rename_i control
      have hex : Hex4 c.toNat ['0', '0', hexDigit (c.toNat / 16), hexDigit (c.toNat % 16)] := by
        have zero : hexValue? '0' = some 0 := rfl
        have digits := Hex4.digits zero zero
          (hexValue?_hexDigit (n := c.toNat / 16) (by omega))
          (hexValue?_hexDigit (n := c.toNat % 16) (by omega))
        have value : ((0 * 16 + 0) * 16 + c.toNat / 16) * 16 + c.toNat % 16 = c.toNat := by omega
        rwa [value] at digits
      have high : isHighSurrogate c.toNat = false := by
        simp only [isHighSurrogate, Bool.and_eq_false_iff, decide_eq_false_iff_not]
        omega
      have low : isLowSurrogate c.toNat = false := by
        simp only [isLowSurrogate, Bool.and_eq_false_iff, decide_eq_false_iff_not]
        omega
      have code := Spells.code hex high low h
      rwa [Char.ofNat_toNat] at code
    · rename_i printed
      exact .plain (Nat.not_lt.1 printed) quote mark h
  all_goals exact .short (by decide) h

theorem spells_flatMap_escape (s : List Char) : Spells (s.map some) (s.flatMap escape) := by
  induction s with
  | nil => exact .nil
  | cons c s ih => exact spells_escape c ih

theorem spellsString_quote (s : String) : SpellsString (some s) (quote s.toList) := by
  have spelled := SpellsString.quoted (spells_flatMap_escape s.toList)
  have whole : ∀ l : List Char, (l.map some).mapM id = some l := by
    intro l
    induction l with
    | nil => rfl
    | cons c l ih => simp [ih]
  rwa [whole, Option.map_some, String.ofList_toList] at spelled

mutual

/-- Whether a tree can be written: its numbers are spelled as numbers are, and its strings have
characters. -/
def Tree.Writable : Tree → Prop
  | .null | .bool _ => True
  | .number n => SpellsNumeral n n.text
  | .string s => s.isSome = true
  | .array items => Tree.WritableItems items
  | .object members => Tree.WritableMembers members

def Tree.WritableItems : List Tree → Prop
  | [] => True
  | t :: ts => t.Writable ∧ Tree.WritableItems ts

def Tree.WritableMembers : List (Option String × Tree) → Prop
  | [] => True
  | (k, t) :: ms => k.isSome = true ∧ t.Writable ∧ Tree.WritableMembers ms

end

theorem Tree.writable_int (i : Int) : (Tree.int i).Writable := Numeral.spells_ofInt i

theorem Tree.writable_nat (n : Nat) : (Tree.nat n).Writable := by
  have spelled := Numeral.spells_ofInt n
  rwa [← Numeral.ofNat_eq_ofInt] at spelled

theorem Tree.writable_record {fields : List (String × Tree)} (h : ∀ f ∈ fields, f.2.Writable) :
    (Tree.record fields).Writable := by
  induction fields with
  | nil => exact trivial
  | cons f fields ih =>
    have rest := ih fun g hg => h g (List.mem_cons_of_mem f hg)
    exact ⟨rfl, h f List.mem_cons_self, rest⟩

theorem Tree.writable_ofOption {α : Type} (write : α → Tree) (h : ∀ a, (write a).Writable)
    (o : Option α) : (Tree.ofOption (o.map write)).Writable := by
  cases o with
  | none => exact trivial
  | some a => exact h a

mutual

theorem Tree.denotes_write : ∀ t : Tree, t.Writable → Denotes t.write (.value t)
  | .null, _ => .null
  | .bool true, _ => .isTrue
  | .bool false, _ => .isFalse
  | .number _, h => .number h
  | .string (some s), _ => .string (spellsString_quote s)
  | .array [], _ => .noItems (b := []) nofun
  | .array (t :: ts), h => .array (Tree.denotes_writeItems (t :: ts) (List.cons_ne_nil t ts) h)
  | .object [], _ => .noMembers (b := []) nofun
  | .object (m :: ms), h =>
    .object (Tree.denotes_writeMembers (m :: ms) (List.cons_ne_nil m ms) h)

theorem Tree.denotes_writeItems : ∀ ts : List Tree, ts ≠ [] → Tree.WritableItems ts →
    Denotes (commas (Tree.writeItems ts)) (.items ts)
  | [t], _, h => .lastItem (Tree.denotes_write t h.1)
  | t :: t' :: ts, _, h =>
    .item (Tree.denotes_write t h.1)
      (Tree.denotes_writeItems (t' :: ts) (List.cons_ne_nil t' ts) h.2)

theorem Tree.denotes_writeMembers : ∀ ms : List (Option String × Tree), ms ≠ [] →
    Tree.WritableMembers ms → Denotes (commas (Tree.writeMembers ms)) (.members ms)
  | [(some k, t)], _, h => by
    have none : ∀ c ∈ [], isBlank c = true := nofun
    have last := Denotes.lastMember none (spellsString_quote k) none (Tree.denotes_write t h.2.1)
    simpa [Tree.writeMembers, commas] using last
  | (some k, t) :: m :: ms, _, h => by
    have none : ∀ c ∈ [], isBlank c = true := nofun
    have first := Denotes.member none (spellsString_quote k) none (Tree.denotes_write t h.2.1)
      (Tree.denotes_writeMembers (m :: ms) (List.cons_ne_nil m ms) h.2.2)
    simpa [Tree.writeMembers, commas] using first

end

/-- What is written is read back. -/
theorem Tree.Writable.parse {t : Tree} (h : t.Writable) : Tree.parse t.compact = some t := by
  have text : t.DenotedBy t.compact := by
    rw [DenotedBy, compact, String.toList_ofList]
    exact t.denotes_write h
  exact text.parse

end ConnPool.Json
