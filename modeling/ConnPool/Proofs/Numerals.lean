import ConnPool.Config.Property

namespace ConnPool.Text

/-- A text without blanks is left as it is. -/
theorem trim_of_unblanked {s : List Char} (h : ∀ c ∈ s, isBlank c = false) : trim s = s := by
  have kept {l : List Char} (hl : ∀ c ∈ l, isBlank c = false) : l.dropWhile isBlank = l := by
    cases l with
    | nil => rfl
    | cons c cs => exact List.dropWhile_cons_of_neg (by simp [hl c List.mem_cons_self])
  rw [trim, kept h, kept fun c hc => h c (List.mem_reverse.1 hc), List.reverse_reverse]

theorem range_of_isDigit {c : Char} (h : c.isDigit = true) : '0' ≤ c ∧ c ≤ '9' := by
  simp only [Char.isDigit, Bool.and_eq_true, decide_eq_true_eq] at h
  exact h

theorem digit?_of_isDigit {c : Char} (h : c.isDigit = true) :
    digit? c = some (c.toNat - '0'.toNat) :=
  if_pos (range_of_isDigit h)

theorem le_ofDigitChars (ds : List Char) (n : Nat) : n ≤ Nat.ofDigitChars 10 ds n := by
  induction ds generalizing n with
  | nil => exact Nat.le_refl n
  | cons d ds ih =>
    rw [Nat.ofDigitChars_cons]
    exact Nat.le_trans (by omega) (ih _)

/-- What is within the bound at the end was so all the way. -/
theorem accumulate_digits {bound : Nat} {excess : NumeralFault} {ds : List Char}
    (digits : ∀ d ∈ ds, d.isDigit = true) {n : Nat} (fits : Nat.ofDigitChars 10 ds n ≤ bound) :
    accumulate bound excess n ds = .ok (Nat.ofDigitChars 10 ds n) := by
  induction ds generalizing n with
  | nil => rfl
  | cons d ds ih =>
    rw [Nat.ofDigitChars_cons, Nat.mul_comm] at fits ⊢
    have next := Nat.le_trans (le_ofDigitChars ds _) fits
    simp only [accumulate, digit?_of_isDigit (digits d List.mem_cons_self), if_pos next]
    exact ih (fun d hd => digits d (List.mem_cons_of_mem _ hd)) fits

theorem isDigit_of_mem_ofNat {n : Nat} {c : Char} (h : c ∈ ofNat n) : c.isDigit = true :=
  Nat.isDigit_of_mem_toDigits (by decide) (by decide) h

theorem readNat_ofNat {bound n : Nat} (fits : n ≤ bound) : readNat bound (ofNat n) = .ok n := by
  have digits : ∀ c ∈ ofNat n, c.isDigit = true := fun c => isDigit_of_mem_ofNat
  have value : Nat.ofDigitChars 10 (ofNat n) 0 = n :=
    Nat.ofDigitChars_toDigits (by decide) (by decide)
  have read : accumulate bound .tooLarge 0 (ofNat n) = .ok n := by
    rw [accumulate_digits digits (value.symm ▸ fits), value]
  unfold readNat
  split
  case h_1 h => exact absurd h Nat.toDigits_ne_nil
  case h_2 h => exact absurd (digits '+' (by simp [h])) (by decide)
  case h_3 h => exact absurd (digits '+' (by simp [h])) (by decide)
  case h_4 => exact read

theorem readUInt64_ofNat (n : UInt64) : readUInt64 (ofNat n.toNat) = .ok n := by
  rw [readUInt64, readNat_ofNat (Nat.le_sub_one_of_lt n.toNat_lt)]
  exact congrArg Except.ok (UInt64.ofNat_toNat)

theorem isBlank_of_isDigit {c : Char} (h : c.isDigit = true) : isBlank c = false := by
  have range : 48 ≤ c.toNat ∧ c.toNat ≤ 57 := range_of_isDigit h
  simp [isBlank]
  omega

theorem trim_ofNat (n : Nat) : trim (ofNat n) = ofNat n :=
  trim_of_unblanked fun _ hc => isBlank_of_isDigit (isDigit_of_mem_ofNat hc)

end ConnPool.Text

namespace ConnPool

theorem readNumberProperty_showNat (key : String) (n : UInt64) :
    readNumberProperty key (Text.showNat n.toNat) = .ok n := by
  simp only [readNumberProperty, readProperty, Text.showNat, String.toList_ofList, Text.trim_ofNat,
    Text.readUInt64_ofNat]
  rfl

theorem readBoolProperty_showBool (key : String) (b : Bool) :
    readBoolProperty key (Text.showBool b) = .ok b := by
  cases b <;> rfl

namespace Isolation

theorem ofText_name (l : Isolation) : ofText l.name = .ok l := by
  cases l <;> rfl

/-- Levels may be written by their code too. -/
theorem ofText_code (l : Isolation) : ofText (String.ofList (Text.ofInt l.code)) = .ok l := by
  cases l <;> rfl

end Isolation
end ConnPool
