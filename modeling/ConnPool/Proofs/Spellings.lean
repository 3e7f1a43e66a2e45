import ConnPool.Proofs.Integers
import Mathlib.Data.List.Forall2

namespace ConnPool.Text

inductive SpellsInt : Int → List Char → Prop where
  | unsigned {ds : List Char} (digits : Json.Digits ds) :
      SpellsInt (Nat.ofDigitChars 10 ds 0) ds
  | plus {ds : List Char} (digits : Json.Digits ds) :
      SpellsInt (Nat.ofDigitChars 10 ds 0) ('+' :: ds)
  | minus {ds : List Char} (digits : Json.Digits ds) :
      SpellsInt (-(Nat.ofDigitChars 10 ds 0 : Int)) ('-' :: ds)

theorem isDigit_of_digit? {c : Char} {d : Nat} (h : digit? c = some d) :
    c.isDigit = true ∧ d = c.toNat - '0'.toNat := by
  unfold digit? at h
  split at h
  case isTrue range =>
    simp only [Char.isDigit, Bool.and_eq_true, decide_eq_true_eq]
    exact ⟨range, (Option.some.inj h).symm⟩
  case isFalse => cases h

theorem accumulate_eq_ok_iff {bound n m : Nat} {excess : NumeralFault} {cs : List Char}
    (within : n ≤ bound) :
    accumulate bound excess n cs = .ok m ↔
      (∀ c ∈ cs, c.isDigit = true) ∧ m = Nat.ofDigitChars 10 cs n ∧ m ≤ bound := by
  constructor
  · intro read
    induction cs generalizing n with
    | nil =>
      obtain rfl := Except.ok.inj read
      exact ⟨List.forall_mem_nil _, rfl, within⟩
    | cons c cs ih =>
      cases hd : digit? c with
      | none =>
        rw [accumulate, hd] at read
        cases read
      | some d =>
        simp only [accumulate, hd] at read
        split at read
        case isTrue fits =>
          obtain ⟨digit, rfl⟩ := isDigit_of_digit? hd
          obtain ⟨digits, value, bounded⟩ := ih fits read
          rw [Nat.ofDigitChars_cons, Nat.mul_comm]
          exact ⟨List.forall_mem_cons.2 ⟨digit, digits⟩, value, bounded⟩
        case isFalse => cases read
  · rintro ⟨digits, rfl, bounded⟩
    exact accumulate_digits digits bounded

theorem map_accumulate_eq_ok_iff {bound : Nat} {excess : NumeralFault} {cs : List Char}
    {f : Nat → Int} {i : Int} :
    (accumulate bound excess 0 cs).map f = .ok i ↔
      (∀ c ∈ cs, c.isDigit = true) ∧ i = f (Nat.ofDigitChars 10 cs 0) ∧
        Nat.ofDigitChars 10 cs 0 ≤ bound := by
  constructor
  · intro read
    cases h : accumulate bound excess 0 cs with
    | error fault =>
      rw [h] at read
      cases read
    | ok n =>
      rw [h] at read
      obtain ⟨digits, rfl, bounded⟩ := (accumulate_eq_ok_iff (Nat.zero_le bound)).1 h
      exact ⟨digits, (Except.ok.inj read).symm, bounded⟩
  · rintro ⟨digits, rfl, bounded⟩
    rw [accumulate_digits digits bounded]
    rfl

/-- The integers of a range are read, however they are spelled, and nothing else is. -/
theorem readInt_eq_ok_iff {bound : Nat} {i : Int} {s : List Char} :
    readInt bound s = .ok i ↔ SpellsInt i s ∧ -(bound + 1 : Int) ≤ i ∧ i ≤ bound := by
  constructor
  · intro read
    unfold readInt at read
    split at read
    case h_1 | h_2 | h_3 => cases read
    case h_4 ds alone =>
      obtain ⟨digits, rfl, bounded⟩ := map_accumulate_eq_ok_iff.1 read
      exact ⟨.plus ⟨alone, digits⟩, by simp only [Int.ofNat_eq_natCast]; omega⟩
    case h_5 ds alone =>
      obtain ⟨digits, rfl, bounded⟩ := map_accumulate_eq_ok_iff.1 read
      exact ⟨.minus ⟨alone, digits⟩, by simp only [Int.ofNat_eq_natCast]; omega⟩
    case h_6 some _ _ _ _ =>
      obtain ⟨digits, rfl, bounded⟩ := map_accumulate_eq_ok_iff.1 read
      exact ⟨.unsigned ⟨some, digits⟩, by simp only [Int.ofNat_eq_natCast]; omega⟩
  · rintro ⟨spelled, lower, upper⟩
    cases spelled with
    | unsigned digits =>
      unfold readInt
      split
      case h_1 => exact absurd rfl digits.1
      case h_2 | h_3 | h_4 | h_5 => exact absurd (digits.2 _ List.mem_cons_self) (by decide)
      case h_6 => exact map_accumulate_eq_ok_iff.2 ⟨digits.2, rfl, by omega⟩
    | plus digits =>
      rw [readInt]
      · exact map_accumulate_eq_ok_iff.2 ⟨digits.2, rfl, by omega⟩
      · exact digits.1
    | minus digits =>
      rw [readInt]
      · exact map_accumulate_eq_ok_iff.2 ⟨digits.2, rfl, by omega⟩
      · exact digits.1

/-- A text spells at most one integer. -/
theorem SpellsInt.unique {i j : Int} {s : List Char} (hi : SpellsInt i s) (hj : SpellsInt j s) :
    i = j := by
  have readAs {k : Int} (hk : SpellsInt k s) (near : k.natAbs ≤ i.natAbs + j.natAbs) :
      readInt (i.natAbs + j.natAbs) s = .ok k :=
    readInt_eq_ok_iff.2 ⟨hk, by omega⟩
  have same := (readAs hi (by omega)).symm.trans (readAs hj (by omega))
  exact Except.ok.inj same

theorem spellsInt_ofInt (i : Int) : SpellsInt i (ofInt i) := by
  have digits := digits_ofNat i.natAbs
  have value := ofDigitChars_ofNat i.natAbs
  unfold ofInt
  split
  case isTrue negative =>
    have spelled := SpellsInt.minus digits
    rwa [value, show -(i.natAbs : Int) = i by omega] at spelled
  case isFalse natural =>
    have spelled := SpellsInt.unsigned digits
    rwa [value, show (i.natAbs : Int) = i by omega] at spelled

def Padded (t s : List Char) : Prop :=
  ∃ before after, s = before ++ t ++ after ∧
    (∀ c ∈ before, isBlank c = true) ∧ ∀ c ∈ after, isBlank c = true

/-- A text that neither starts nor ends with a blank. -/
structure Bare (t : List Char) : Prop where
  first : ∃ c ∈ t.head?, isBlank c = false
  last : ∃ c ∈ t.getLast?, isBlank c = false

theorem padded_trim (s : List Char) : Padded (trim s) s := by
  refine ⟨s.takeWhile isBlank, ((s.dropWhile isBlank).reverse.takeWhile isBlank).reverse, ?_, ?_, ?_⟩
  · rw [trim, List.append_assoc, ← List.reverse_append, List.takeWhile_append_dropWhile,
      List.reverse_reverse, List.takeWhile_append_dropWhile]
  · exact List.all_eq_true.1 List.all_takeWhile
  · exact fun c hc => List.all_eq_true.1 List.all_takeWhile c (List.mem_reverse.1 hc)

theorem dropWhile_blanks {before s : List Char} (blank : ∀ c ∈ before, isBlank c = true)
    (first : ∃ c ∈ s.head?, isBlank c = false) : (before ++ s).dropWhile isBlank = s := by
  rw [List.dropWhile_append_of_pos blank]
  obtain ⟨c, hc, plain⟩ := first
  obtain ⟨cs, rfl⟩ := List.head?_eq_some_iff.1 hc
  exact List.dropWhile_cons_of_neg (by simp [plain])

theorem Padded.trim_eq {t s : List Char} (padded : Padded t s) (bare : Bare t) : trim s = t := by
  obtain ⟨before, after, rfl, blank, blank'⟩ := padded
  have first : ∃ c ∈ (t ++ after).head?, isBlank c = false := by
    obtain ⟨c, hc, plain⟩ := bare.first
    obtain ⟨cs, rfl⟩ := List.head?_eq_some_iff.1 hc
    exact ⟨c, rfl, plain⟩
  have last : ∃ c ∈ t.reverse.head?, isBlank c = false := by
    rw [List.head?_reverse]
    exact bare.last
  rw [trim, List.append_assoc, dropWhile_blanks blank first, List.reverse_append,
    dropWhile_blanks (fun c hc => blank' c (List.mem_reverse.1 hc)) last, List.reverse_reverse]

theorem bare_of_unblanked {t : List Char} (some : t ≠ []) (h : ∀ c ∈ t, isBlank c = false) :
    Bare t :=
  ⟨⟨t.head some, List.head?_eq_some_head some, h _ (List.head_mem some)⟩,
    ⟨t.getLast some, List.getLast?_eq_some_getLast some, h _ (List.getLast_mem some)⟩⟩

theorem SpellsInt.bare {i : Int} {s : List Char} (spelled : SpellsInt i s) : Bare s := by
  cases spelled with
  | unsigned digits =>
    exact bare_of_unblanked digits.1 fun c hc => isBlank_of_isDigit (digits.2 c hc)
  | plus digits | minus digits =>
    exact bare_of_unblanked (List.cons_ne_nil _ _) (List.forall_mem_cons.2
      ⟨by decide, fun c hc => isBlank_of_isDigit (digits.2 c hc)⟩)

theorem SpellsInt.first {i : Int} {s : List Char} (spelled : SpellsInt i s) :
    ∃ c ∈ s.head?, c.toNat < 65 := by
  cases spelled with
  | unsigned digits =>
    have digit := digits.2 _ (List.head_mem digits.1)
    have small := (range_of_isDigit digit).2
    exact ⟨_, List.head?_eq_some_head digits.1, Nat.lt_of_le_of_lt small (by decide)⟩
  | plus | minus => exact ⟨_, rfl, by decide⟩

def Fits32 (i : Int) : Prop := Int32.minValue.toInt ≤ i ∧ i ≤ Int32.maxValue.toInt

theorem readInt32_eq_ok_iff {i : Int} {s : List Char} :
    readInt Int32.maxValue.toInt.toNat s = .ok i ↔ SpellsInt i s ∧ Fits32 i := by
  rw [readInt_eq_ok_iff]
  rfl

theorem isUpper_iff {c : Char} : c.isUpper = true ↔ 65 ≤ c.toNat ∧ c.toNat ≤ 90 := by
  delta Char.isUpper
  simp [UInt32.le_iff_toNat_le]

theorem toNat_toLower (c : Char) :
    c.toLower.toNat = if 65 ≤ c.toNat ∧ c.toNat ≤ 90 then c.toNat + 32 else c.toNat := by
  delta Char.toLower
  simp only [UInt32.le_iff_toNat_le, ge_iff_le]
  split
  case isTrue upper =>
    have range : 65 ≤ c.toNat ∧ c.toNat ≤ 90 := upper
    have value : (c.val + ('a'.val - 'A'.val)).toNat = c.toNat + 32 := by
      rw [UInt32.toNat_add]
      simp
      omega
    rw [if_pos range]
    exact value
  case isFalse other => exact (if_neg other).symm

theorem toNat_toUpper (c : Char) :
    c.toUpper.toNat = if 97 ≤ c.toNat ∧ c.toNat ≤ 122 then c.toNat - 32 else c.toNat := by
  delta Char.toUpper
  simp only [UInt32.le_iff_toNat_le]
  split
  case isTrue lower =>
    have range : 97 ≤ c.toNat ∧ c.toNat ≤ 122 := lower
    have value : (c.val + ('A'.val - 'a'.val)).toNat = c.toNat - 32 := by
      rw [UInt32.toNat_add]
      simp
      omega
    rw [if_pos range]
    exact value
  case isFalse other => exact (if_neg other).symm

/-- A capital letter comes from itself and from its small letter. -/
theorem toUpper_eq_iff {c d : Char} (letter : c.isUpper = true) :
    d.toUpper = c ↔ d = c ∨ d = c.toLower := by
  rw [isUpper_iff] at letter
  simp only [← Char.toNat_inj, toNat_toUpper, toNat_toLower]
  split <;> omega

end ConnPool.Text

namespace ConnPool.Isolation

open Text

/-- How a character of a name may be written: in either case, and `_` as two other signs too. -/
inductive Respells : Char → Char → Prop where
  | same (c : Char) : Respells c c
  | small (c : Char) : Respells c c.toLower
  | dash : Respells '_' '-'
  | space : Respells '_' ' '

/-- The spellings of a level: its code as an integer, and its name character by character. -/
inductive SpelledBy (l : Isolation) : List Char → Prop where
  | code {t : List Char} (spelled : SpellsInt l.code t) : l.SpelledBy t
  | name {t : List Char} (spelled : List.Forall₂ Respells l.name.toList t) : l.SpelledBy t

theorem respells_letter_iff {c d : Char} (letter : c.isUpper = true) :
    Respells c d ↔ d = c ∨ d = c.toLower := by
  constructor
  · intro respelled
    cases respelled with
    | same => exact .inl rfl
    | small => exact .inr rfl
    | dash | space => cases letter
  · rintro (rfl | rfl)
    · exact .same _
    · exact .small c

theorem respells_underscore_iff {d : Char} :
    Respells '_' d ↔ d = '-' ∨ d = ' ' ∨ d = '_' := by
  constructor
  · intro respelled
    cases respelled with
    | same => exact .inr (.inr rfl)
    | small => exact .inr (.inr rfl)
    | dash => exact .inl rfl
    | space => exact .inr (.inl rfl)
  · rintro (rfl | rfl | rfl)
    · exact .dash
    · exact .space
    · exact .same _

/-- What normalization makes a character of a name is what the character is respelled from. -/
theorem normalize_eq_iff {c d : Char} (h : c.isUpper = true ∨ c = '_') :
    normalize d = c ↔ Respells c d := by
  unfold normalize
  rcases h with letter | rfl
  · rw [respells_letter_iff letter, ← toUpper_eq_iff letter]
    split
    case isTrue sign =>
      have unlike : d.toUpper ≠ c := by
        rcases sign with rfl | rfl <;> (rintro rfl; exact absurd letter (by decide))
      have unlike' : '_' ≠ c := by
        rintro rfl
        exact absurd letter (by decide)
      exact iff_of_false unlike' unlike
    case isFalse => rfl
  · rw [respells_underscore_iff]
    split
    case isTrue sign => exact iff_of_true rfl (sign.imp_right .inl)
    case isFalse other =>
      obtain ⟨dash, space⟩ := not_or.1 other
      have upper : d.toUpper = '_' ↔ d = '_' := by
        have value : '_'.toNat = 95 := rfl
        rw [← Char.toNat_inj, ← Char.toNat_inj, toNat_toUpper, value]
        split <;> omega
      rw [upper, or_iff_right dash, or_iff_right space]

/-- The characters of names, with letters at both ends. -/
theorem name_shape (l : Isolation) :
    (∀ c ∈ l.name.toList, c.isUpper = true ∨ c = '_') ∧
      (∃ c ∈ l.name.toList.head?, c.isUpper = true) ∧
        ∃ c ∈ l.name.toList.getLast?, c.isUpper = true := by
  have all : l.name.toList.all (fun c => c.isUpper || c == '_') = true := by cases l <;> decide
  refine ⟨fun c hc => ?_, ?_⟩
  · simpa using List.all_eq_true.1 all c hc
  · cases l <;> exact ⟨⟨_, rfl, by decide⟩, _, rfl, by decide⟩

theorem forall₂_respells_iff {cs t : List Char}
    (h : ∀ c ∈ cs, c.isUpper = true ∨ c = '_') :
    List.Forall₂ Respells cs t ↔ cs = t.map normalize := by
  induction cs generalizing t with
  | nil => cases t <;> simp
  | cons c cs ih =>
    obtain ⟨first, rest⟩ := List.forall_mem_cons.1 h
    cases t with
    | nil => simp
    | cons d t =>
      rw [List.forall₂_cons, List.map_cons, List.cons.injEq, ih rest, ← normalize_eq_iff first,
        eq_comm (a := c)]

theorem Respells.letter {c d : Char} (respelled : Respells c d) (letter : c.isUpper = true) :
    65 ≤ d.toNat ∧ d.toNat ≤ 122 := by
  have range := isUpper_iff.1 letter
  rcases (respells_letter_iff letter).1 respelled with rfl | rfl
  · omega
  · rw [toNat_toLower]
    split <;> omega

theorem letter_first {cs t : List Char} (spelled : List.Forall₂ Respells cs t)
    (first : ∃ c ∈ cs.head?, c.isUpper = true) : ∃ d ∈ t.head?, 65 ≤ d.toNat ∧ d.toNat ≤ 122 := by
  obtain ⟨c, hc, letter⟩ := first
  obtain ⟨cs, rfl⟩ := List.head?_eq_some_iff.1 hc
  cases spelled with
  | cons respelled => exact ⟨_, rfl, respelled.letter letter⟩

theorem isBlank_of_letter {d : Char} (h : 65 ≤ d.toNat ∧ d.toNat ≤ 122) : isBlank d = false := by
  simp [isBlank]
  omega

theorem SpelledBy.bare {l : Isolation} {t : List Char} (spelled : l.SpelledBy t) : Bare t := by
  obtain ⟨-, first, last⟩ := l.name_shape
  cases spelled with
  | code spelled => exact spelled.bare
  | name spelled =>
    obtain ⟨c, hc, range⟩ := letter_first spelled first
    rw [← List.head?_reverse] at last
    obtain ⟨d, hd, range'⟩ := letter_first (List.forall₂_reverse_iff.2 spelled) last
    rw [List.head?_reverse] at hd
    exact ⟨⟨c, hc, isBlank_of_letter range⟩, ⟨d, hd, isBlank_of_letter range'⟩⟩

/-- No integer spells a name. -/
theorem not_spellsInt_of_name {l : Isolation} {t : List Char} {i : Int}
    (spelled : List.Forall₂ Respells l.name.toList t) : ¬ SpellsInt i t := by
  intro integer
  obtain ⟨c, hc, range⟩ := letter_first spelled l.name_shape.2.1
  obtain ⟨d, hd, small⟩ := integer.first
  obtain rfl := Option.mem_unique hc hd
  omega

theorem spelledBy_iff_of_spellsInt {l : Isolation} {t : List Char} {i : Int}
    (integer : SpellsInt i t) : l.SpelledBy t ↔ l.code = i := by
  constructor
  · intro spelled
    cases spelled with
    | code spelled => exact spelled.unique integer
    | name spelled => exact absurd integer (not_spellsInt_of_name spelled)
  · rintro rfl
    exact .code integer

theorem fits_code (l : Isolation) : Fits32 l.code := by
  cases l <;> exact ⟨by decide, by decide⟩

theorem spelledBy_iff_of_not_spellsInt {l : Isolation} {t : List Char}
    (other : ∀ i, SpellsInt i t → ¬ Fits32 i) :
    l.SpelledBy t ↔ l.name.toList = t.map normalize := by
  rw [← forall₂_respells_iff l.name_shape.1]
  constructor
  · intro spelled
    cases spelled with
    | code spelled => exact absurd l.fits_code (other _ spelled)
    | name spelled => exact spelled
  · exact .name

theorem ofCode?_eq_some_iff {i : Int} {l : Isolation} : ofCode? i = some l ↔ l.code = i := by
  constructor
  · intro found
    exact beq_iff_eq.1 (List.find?_some (p := fun l : Isolation => l.code == i) found)
  · rintro rfl
    exact l.ofCode?_code

theorem find?_name_eq_some_iff {t : List Char} {l : Isolation} :
    all.find? (·.name.toList == t) = some l ↔ l.name.toList = t := by
  constructor
  · intro found
    exact beq_iff_eq.1 (List.find?_some (p := fun l : Isolation => l.name.toList == t) found)
  · rintro rfl
    cases l <;> rfl

/-- Why a text denotes no level: an integer of 32 bits by its value, any other text as it is. -/
inductive Reported (s : String) : Unknown → Prop where
  | code {t : List Char} {i : Int} (padded : Padded t s.toList) (spelled : SpellsInt i t)
      (fits : Fits32 i) : Reported s (.code i)
  | name (other : ∀ t i, Padded t s.toList → SpellsInt i t → ¬ Fits32 i) : Reported s (.name s)

theorem parse_of_integer {s : String} {i : Int} (integer : SpellsInt i (trim s.toList))
    (fits : Fits32 i) : parse s = (ofCode? i).elim (.error (.code i)) .ok := by
  simp only [parse, readInt32_eq_ok_iff.2 ⟨integer, fits⟩]

theorem parse_of_other {s : String} (other : ∀ i, SpellsInt i (trim s.toList) → ¬ Fits32 i) :
    parse s = (all.find? (·.name.toList == (trim s.toList).map normalize)).elim
      (.error (.name s)) .ok := by
  cases read : readInt Int32.maxValue.toInt.toNat (trim s.toList) with
  | ok i =>
    obtain ⟨integer, fits⟩ := readInt32_eq_ok_iff.1 read
    exact absurd fits (other i integer)
  | error fault => simp only [parse, read]

theorem elim_eq_ok_iff {o : Option Isolation} {why : Unknown} {l : Isolation} :
    o.elim (.error why) .ok = (.ok l : Except Unknown Isolation) ↔ o = some l := by
  cases o <;> simp

theorem elim_eq_error {o : Option Isolation} {why why' : Unknown}
    (h : o.elim (.error why) .ok = (.error why' : Except Unknown Isolation)) : why' = why := by
  cases o <;> cases h
  rfl

theorem parse_eq_ok_iff {s : String} {l : Isolation} :
    parse s = .ok l ↔ l.SpelledBy (trim s.toList) := by
  by_cases h : ∃ i, SpellsInt i (trim s.toList) ∧ Fits32 i
  · obtain ⟨i, integer, fits⟩ := h
    rw [parse_of_integer integer fits, elim_eq_ok_iff, ofCode?_eq_some_iff,
      spelledBy_iff_of_spellsInt integer]
  · have other : ∀ i, SpellsInt i (trim s.toList) → ¬ Fits32 i :=
      fun i integer fits => h ⟨i, integer, fits⟩
    rw [parse_of_other other, elim_eq_ok_iff, find?_name_eq_some_iff,
      spelledBy_iff_of_not_spellsInt other]

theorem reported_of_parse {s : String} {why : Unknown} (h : parse s = .error why) :
    Reported s why := by
  by_cases known : ∃ i, SpellsInt i (trim s.toList) ∧ Fits32 i
  · obtain ⟨i, integer, fits⟩ := known
    rw [parse_of_integer integer fits] at h
    obtain rfl := elim_eq_error h
    exact .code (padded_trim s.toList) integer fits
  · have other : ∀ i, SpellsInt i (trim s.toList) → ¬ Fits32 i :=
      fun i integer fits => known ⟨i, integer, fits⟩
    rw [parse_of_other other] at h
    obtain rfl := elim_eq_error h
    refine .name fun t i padded integer => other i ?_
    rwa [padded.trim_eq integer.bare]

theorem Reported.unique {s : String} {why why' : Unknown} (h : Reported s why)
    (h' : Reported s why') : why = why' := by
  cases h with
  | code padded integer fits =>
    cases h' with
    | code padded' integer' fits' =>
      have same := (padded.trim_eq integer.bare).symm.trans (padded'.trim_eq integer'.bare)
      rw [integer.unique (same ▸ integer')]
    | name other => exact absurd fits (other _ _ padded integer)
  | name other =>
    cases h' with
    | code padded integer fits => exact absurd fits (other _ _ padded integer)
    | name => rfl

theorem padded_spelling_iff {s : List Char} {l : Isolation} :
    (∃ t, Padded t s ∧ l.SpelledBy t) ↔ l.SpelledBy (trim s) := by
  constructor
  · rintro ⟨t, padded, spelled⟩
    rwa [padded.trim_eq spelled.bare]
  · exact fun spelled => ⟨_, padded_trim s, spelled⟩

theorem ofText_eq_ok_iff {s : String} {l : Isolation} : ofText s = .ok l ↔ parse s = .ok l := by
  unfold ofText
  cases parse s <;> simp [Except.mapError]

theorem ofText_eq_error_iff {s : String} {e : Error} :
    ofText s = .error e ↔
      ∃ why, parse s = .error why ∧ e = .configuration (.unknownLevel why) := by
  unfold ofText
  cases parse s <;> simp [Except.mapError, eq_comm]

/-- A text denotes a level exactly if, without the blanks around it, it is one of the spellings of
the level; of every other text it is reported how it was taken. What levels are written as, by name
or by code, are spellings. -/
theorem ofText_exact (s : String) :
    (∀ l, ofText s = .ok l ↔ ∃ t, Padded t s.toList ∧ SpelledBy l t) ∧
      (∀ e, ofText s = .error e ↔
        (¬ ∃ l t, Padded t s.toList ∧ SpelledBy l t) ∧
          ∃ why, Reported s why ∧ e = .configuration (.unknownLevel why)) ∧
      ∀ l : Isolation, l.SpelledBy l.name.toList ∧ l.SpelledBy (ofInt l.code) := by
  have accepted (l : Isolation) :
      ofText s = .ok l ↔ ∃ t, Padded t s.toList ∧ SpelledBy l t := by
    rw [ofText_eq_ok_iff, parse_eq_ok_iff, padded_spelling_iff]
  refine ⟨accepted, fun e => ⟨fun refused => ⟨?_, ?_⟩, ?_⟩, fun l => ⟨.name ?_, .code ?_⟩⟩
  · rintro ⟨l, spelled⟩
    rw [(accepted l).2 spelled] at refused
    cases refused
  · obtain ⟨why, h, rfl⟩ := ofText_eq_error_iff.1 refused
    exact ⟨why, reported_of_parse h, rfl⟩
  · rintro ⟨unspelled, why, reported, rfl⟩
    cases h : parse s with
    | ok l => exact absurd ⟨l, (accepted l).1 (ofText_eq_ok_iff.2 h)⟩ unspelled
    | error why' =>
      rw [reported.unique (reported_of_parse h)]
      exact ofText_eq_error_iff.2 ⟨why', h, rfl⟩
  · exact List.forall₂_same.2 fun c _ => .same c
  · exact spellsInt_ofInt l.code

example : ofText "\tRead-committed " = .ok .readCommitted ∧ ofText "+04" = .ok .repeatableRead := by
  decide

end ConnPool.Isolation
