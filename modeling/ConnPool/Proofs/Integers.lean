import ConnPool.Proofs.Grammar
import ConnPool.Proofs.Numerals
import ConnPool.Value

namespace ConnPool.Text

theorem digits_ofNat (n : Nat) : Json.Digits (ofNat n) :=
  ⟨Nat.toDigits_ne_nil, fun _ => isDigit_of_mem_ofNat⟩

theorem ofDigitChars_ofNat (n : Nat) : Nat.ofDigitChars 10 (ofNat n) 0 = n :=
  Nat.ofDigitChars_toDigits (by decide) (by decide)

/-- Only zero starts with a zero. -/
theorem ofNat_of_zero {n : Nat} (h : (ofNat n).head? = some '0') : ofNat n = ['0'] := by
  induction n using Nat.strongRecOn with
  | ind n ih =>
    by_cases small : n < 10
    · rw [ofNat, Nat.toDigits_of_lt_base small] at h ⊢
      exact congrArg (· :: []) (Option.some.inj h)
    · have parts : ofNat n = ofNat (n / 10) ++ [(n % 10).digitChar] :=
        Nat.toDigits_of_base_le (by decide) (by omega)
      have first : (ofNat (n / 10)).head? = some '0' := by
        rw [parts, List.head?_append] at h
        cases front : (ofNat (n / 10)).head? with
        | none => exact absurd (List.head?_eq_none_iff.1 front) Nat.toDigits_ne_nil
        | some c => simpa [front] using h
      have zero := ofDigitChars_ofNat (n / 10)
      rw [ih (n / 10) (by omega) first] at zero
      have none : n / 10 = 0 := zero.symm
      omega

end ConnPool.Text

namespace ConnPool.Json

namespace Numeral

theorem spells_ofInt (i : Int) : SpellsNumeral (ofInt i) (ofInt i).text := by
  have spelled : SpellsNumeral (ofInt i) _ :=
    .parts (decide (i < 0)) (Text.digits_ofNat i.natAbs) Text.ofNat_of_zero .absent .absent
  simpa [text, ofInt] using spelled

theorem ofNat_eq_ofInt (n : Nat) : ofNat n = ofInt n := by
  simp [ofNat, ofInt]

/-- Digits of a number that fits are all taken. -/
theorem fitting_digits {ds : List Char} {n : Nat}
    (fits : Nat.ofDigitChars 10 ds n < UInt64.size) :
    fitting n ds = (Nat.ofDigitChars 10 ds n, []) := by
  induction ds generalizing n with
  | nil => rfl
  | cons d ds ih =>
    rw [Nat.ofDigitChars_cons, Nat.mul_comm] at fits ⊢
    have next := Nat.lt_of_le_of_lt (Text.le_ofDigitChars ds _) fits
    rw [fitting, if_pos next]
    exact ih fits

theorem fitting_ofNat {n : Nat} (fits : n < UInt64.size) : fitting 0 (Text.ofNat n) = (n, []) := by
  rw [fitting_digits (by rwa [Text.ofDigitChars_ofNat]), Text.ofDigitChars_ofNat]

theorem toNumber?_ofInt {i : Int} (low : Int64.minValue.toInt ≤ i) (high : i < UInt64.size) :
    (ofInt i).toNumber? = some (.integer i) := by
  have least : Int64.minValue.toInt = -9223372036854775808 := rfl
  have size : UInt64.size = 18446744073709551616 := rfl
  have fits : i.natAbs < UInt64.size := by omega
  simp only [toNumber?, ofInt, fitting_ofNat fits, decide_eq_false_iff_not, decide_eq_true_eq,
    true_and]
  rw [if_pos (by omega)]
  split
  · rw [show -(i.natAbs : Int) = i by omega]
  · rw [show (i.natAbs : Int) = i by omega]

theorem toNumber?_ofNat {n : Nat} (fits : n < UInt64.size) :
    (ofNat n).toNumber? = some (.integer n) := by
  have least : Int64.minValue.toInt = -9223372036854775808 := rfl
  rw [ofNat_eq_ofInt]
  exact toNumber?_ofInt (by omega) (by omega)

end Numeral

theorem readUInt64_nat (n : UInt64) : readUInt64 (.nat n.toNat) = some n := by
  simp [readUInt64, Tree.nat, Numeral.toNumber?_ofNat n.toNat_lt]

end ConnPool.Json

namespace ConnPool.Value

theorem readInteger_int {low high i : Int} (least : Int64.minValue.toInt ≤ low)
    (most : high < UInt64.size) (above : low ≤ i) (below : i ≤ high) :
    readInteger low high (.int i) = some i := by
  have read := Json.Numeral.toNumber?_ofInt (Int.le_trans least above)
    (Int.lt_of_le_of_lt below most)
  simp [readInteger, Json.Tree.int, read, above, below]

theorem readInt32_int (i : Int32) : readInt32 (.int i.toInt) = some i := by
  rw [readInt32, readInteger_int (by decide) (by decide) i.minValue_le_toInt i.toInt_le]
  exact congrArg some i.ofInt_toInt

theorem readInt64_int (i : Int64) : readInt64 (.int i.toInt) = some i := by
  rw [readInt64, readInteger_int (by decide) (by decide) i.minValue_le_toInt i.toInt_le]
  exact congrArg some i.ofInt_toInt

theorem readInteger_byte (b : UInt8) : readInteger 0 255 (.nat b.toNat) = some b.toNat := by
  have below : b.toNat < 256 := b.toNat_lt
  rw [Json.Tree.nat, Json.Numeral.ofNat_eq_ofInt]
  exact readInteger_int (by decide) (by decide) (by omega) (by omega)

theorem readBytes_nat (depth : Nat) (bs : List UInt8) :
    readBytes (depth + 1) (.array (bs.map fun b => .nat b.toNat)) = some bs := by
  have numbers : (bs.map fun b => Json.Tree.nat b.toNat).mapM (readInteger 0 255) =
      some (bs.map fun b => (b.toNat : Int)) := by
    induction bs with
    | nil => rfl
    | cons b bs ih => simp [readInteger_byte, ih]
  simp only [readBytes, numbers, Option.map_some, List.map_map]
  refine congrArg some ((List.map_congr_left fun b _ => ?_).trans (List.map_id bs))
  simp

end ConnPool.Value
