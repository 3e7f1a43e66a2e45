import ConnPool.Json.Reader

namespace ConnPool.Json

inductive Hex4 : Nat → List Char → Prop where
  | digits {a b c d : Char} {w x y z : Nat} (first : hexValue? a = some w)
      (second : hexValue? b = some x) (third : hexValue? c = some y)
      (fourth : hexValue? d = some z) :
      Hex4 (((w * 16 + x) * 16 + y) * 16 + z) [a, b, c, d]

def shortEscapes : List (Char × Char) :=
  [('"', '"'), ('\\', '\\'), ('/', '/'), ('b', '\x08'), ('f', '\x0c'), ('n', '\n'), ('r', '\r'),
    ('t', '\t')]

/-- How characters, and halves of surrogate pairs, are spelled between quotes. -/
inductive Spells : List Piece → List Char → Prop where
  | nil : Spells [] []
  | plain {c : Char} {us : List Piece} {s : List Char} (printed : 32 ≤ c.toNat)
      (quote : c ≠ '"') (mark : c ≠ '\\') (rest : Spells us s) : Spells (some c :: us) (c :: s)
  | short {e c : Char} {us : List Piece} {s : List Char} (listed : (e, c) ∈ shortEscapes)
      (rest : Spells us s) : Spells (some c :: us) ('\\' :: e :: s)
  | code {n : Nat} {h : List Char} {us : List Piece} {s : List Char} (hex : Hex4 n h)
      (high : isHighSurrogate n = false) (low : isLowSurrogate n = false) (rest : Spells us s) :
      Spells (some (Char.ofNat n) :: us) ('\\' :: 'u' :: (h ++ s))
  | pair {n m : Nat} {h l : List Char} {us : List Piece} {s : List Char} (hex : Hex4 n h)
      (high : isHighSurrogate n = true) (hex' : Hex4 m l) (low : isLowSurrogate m = true)
      (rest : Spells us s) :
      Spells (some (Char.ofNat (0x10000 + (n - 0xD800) * 0x400 + (m - 0xDC00))) :: us)
        ('\\' :: 'u' :: (h ++ '\\' :: 'u' :: (l ++ s)))
  | lowHalf {n : Nat} {h : List Char} {us : List Piece} {s : List Char} (hex : Hex4 n h)
      (low : isLowSurrogate n = true) (rest : Spells us s) :
      Spells (none :: us) ('\\' :: 'u' :: (h ++ s))
  | highHalf {n : Nat} {h : List Char} {us : List Piece} {s : List Char} (hex : Hex4 n h)
      (high : isHighSurrogate n = true)
      (alone : ∀ m l s', Hex4 m l → isLowSurrogate m = true → s ≠ '\\' :: 'u' :: (l ++ s'))
      (rest : Spells us s) : Spells (none :: us) ('\\' :: 'u' :: (h ++ s))

inductive SpellsString : Option String → List Char → Prop where
  | quoted {us : List Piece} {s : List Char} (inside : Spells us s) :
      SpellsString ((us.mapM id).map String.ofList) ('"' :: (s ++ ['"']))

def Digits (s : List Char) : Prop := s ≠ [] ∧ ∀ c ∈ s, c.isDigit = true

inductive SpellsExponent : Option (Bool × List Char) → List Char → Prop where
  | absent : SpellsExponent none []
  | unsigned {e : Char} {ds : List Char} (mark : e = 'e' ∨ e = 'E') (digits : Digits ds) :
      SpellsExponent (some (false, ds)) (e :: ds)
  | plus {e : Char} {ds : List Char} (mark : e = 'e' ∨ e = 'E') (digits : Digits ds) :
      SpellsExponent (some (false, ds)) (e :: '+' :: ds)
  | minus {e : Char} {ds : List Char} (mark : e = 'e' ∨ e = 'E') (digits : Digits ds) :
      SpellsExponent (some (true, ds)) (e :: '-' :: ds)

inductive SpellsFraction : List Char → List Char → Prop where
  | absent : SpellsFraction [] []
  | point {ds : List Char} (digits : Digits ds) : SpellsFraction ds ('.' :: ds)

inductive SpellsNumeral : Numeral → List Char → Prop where
  | parts {whole fraction f e : List Char} {exponent : Option (Bool × List Char)}
      (negative : Bool) (digits : Digits whole) (zero : whole.head? = some '0' → whole = ['0'])
      (point : SpellsFraction fraction f) (power : SpellsExponent exponent e) :
      SpellsNumeral ⟨negative, whole, fraction, exponent⟩
        ((if negative then ['-'] else []) ++ whole ++ f ++ e)

/-- What a stretch of a text stands for: a value, or the items or members between brackets. -/
inductive Phrase where
  | value (t : Tree)
  | items (ts : List Tree)
  | members (ms : List (Option String × Tree))

/-- A text that stands for a phrase. Blanks may be anywhere around a value or a key. -/
inductive Denotes : List Char → Phrase → Prop where
  | null : Denotes ['n', 'u', 'l', 'l'] (.value .null)
  | isTrue : Denotes ['t', 'r', 'u', 'e'] (.value (.bool true))
  | isFalse : Denotes ['f', 'a', 'l', 's', 'e'] (.value (.bool false))
  | number {n : Numeral} {s : List Char} (spelled : SpellsNumeral n s) :
      Denotes s (.value (.number n))
  | string {o : Option String} {s : List Char} (spelled : SpellsString o s) :
      Denotes s (.value (.string o))
  | noItems {b : List Char} (blank : ∀ c ∈ b, isBlank c = true) :
      Denotes ('[' :: (b ++ [']'])) (.value (.array []))
  | array {s : List Char} {ts : List Tree} (inside : Denotes s (.items ts)) :
      Denotes ('[' :: (s ++ [']'])) (.value (.array ts))
  | noMembers {b : List Char} (blank : ∀ c ∈ b, isBlank c = true) :
      Denotes ('\x7b' :: (b ++ ['\x7d'])) (.value (.object []))
  | object {s : List Char} {ms : List (Option String × Tree)} (inside : Denotes s (.members ms)) :
      Denotes ('\x7b' :: (s ++ ['\x7d'])) (.value (.object ms))
  | before {c : Char} {s : List Char} {t : Tree} (blank : isBlank c = true)
      (value : Denotes s (.value t)) : Denotes (c :: s) (.value t)
  | after {c : Char} {s : List Char} {t : Tree} (blank : isBlank c = true)
      (value : Denotes s (.value t)) : Denotes (s ++ [c]) (.value t)
  | lastItem {s : List Char} {t : Tree} (value : Denotes s (.value t)) : Denotes s (.items [t])
  | item {s s' : List Char} {t : Tree} {ts : List Tree} (value : Denotes s (.value t))
      (more : Denotes s' (.items ts)) : Denotes (s ++ ',' :: s') (.items (t :: ts))
  | lastMember {b k b' s : List Char} {key : Option String} {t : Tree}
      (blank : ∀ c ∈ b, isBlank c = true) (spelled : SpellsString key k)
      (blank' : ∀ c ∈ b', isBlank c = true) (value : Denotes s (.value t)) :
      Denotes (b ++ k ++ b' ++ ':' :: s) (.members [(key, t)])
  | member {b k b' s s' : List Char} {key : Option String} {t : Tree}
      {ms : List (Option String × Tree)} (blank : ∀ c ∈ b, isBlank c = true)
      (spelled : SpellsString key k) (blank' : ∀ c ∈ b', isBlank c = true)
      (value : Denotes s (.value t)) (more : Denotes s' (.members ms)) :
      Denotes (b ++ k ++ b' ++ ':' :: (s ++ ',' :: s')) (.members ((key, t) :: ms))

/-- Whether a text denotes a tree. -/
def Tree.DenotedBy (t : Tree) (s : String) : Prop := Denotes s.toList (.value t)

theorem Hex4.read {n : Nat} {h : List Char} (hex : Hex4 n h) (rest : List Char) :
    readHex4 (h ++ rest) = some (n, rest) := by
  obtain ⟨first, second, third, fourth⟩ := hex
  simp [readHex4, first, second, third, fourth]

theorem hex4_of_read {s rest : List Char} {n : Nat} (h : readHex4 s = some (n, rest)) :
    ∃ l, Hex4 n l ∧ s = l ++ rest := by
  unfold readHex4 at h
  split at h
  · simp only [Option.bind_eq_bind, Option.bind_eq_some_iff, Option.some.injEq,
      Prod.mk.injEq] at h
    obtain ⟨w, first, x, second, y, third, z, fourth, rfl, rfl⟩ := h
    exact ⟨_, .digits first second third fourth, rfl⟩
  · cases h

theorem Hex4.no_quote {n : Nat} {h : List Char} (hex : Hex4 n h) : '"' ∉ h := by
  obtain ⟨first, second, third, fourth⟩ := hex
  have none : hexValue? '"' = none := by decide
  simp only [List.mem_cons, List.not_mem_nil, or_false, not_or]
  refine ⟨?_, ?_, ?_, ?_⟩ <;> rintro rfl <;> simp_all

/-- An escape that goes on behind the closing quote would have it as a digit. -/
theorem Hex4.within {n : Nat} {l s rest after : List Char} (hex : Hex4 n l)
    (h : s ++ '"' :: rest = '\\' :: 'u' :: (l ++ after)) :
    ∃ s', s = '\\' :: 'u' :: (l ++ s') := by
  have split : s ++ '"' :: rest = ('\\' :: 'u' :: l) ++ after := h
  rcases List.append_eq_append_iff.1 split with ⟨a, short, quoted⟩ | ⟨a, long, -⟩
  · cases a with
    | nil => exact ⟨[], by simpa using short.symm⟩
    | cons c a =>
      obtain ⟨rfl, -⟩ := List.cons.inj quoted
      have inside : '"' ∈ '\\' :: 'u' :: l := by simp [short]
      simp [hex.no_quote] at inside
  · exact ⟨a, by simpa using long⟩

theorem readEscape_short {e c : Char} (listed : (e, c) ∈ shortEscapes) (rest : List Char) :
    readEscape (e :: rest) = some (some c, rest) := by
  simp only [shortEscapes, List.mem_cons, List.not_mem_nil, or_false, Prod.mk.injEq] at listed
  rcases listed with h | h | h | h | h | h | h | h <;> obtain ⟨rfl, rfl⟩ := h <;> rfl

theorem readEscape_code {n : Nat} {h : List Char} (hex : Hex4 n h)
    (high : isHighSurrogate n = false) (low : isLowSurrogate n = false) (rest : List Char) :
    readEscape ('u' :: (h ++ rest)) = some (some (Char.ofNat n), rest) := by
  simp [readEscape, hex.read, high, low]

theorem readEscape_lowHalf {n : Nat} {h : List Char} (hex : Hex4 n h)
    (low : isLowSurrogate n = true) (rest : List Char) :
    readEscape ('u' :: (h ++ rest)) = some (none, rest) := by
  have high : isHighSurrogate n = false := by
    simp only [isLowSurrogate, isHighSurrogate, Bool.and_eq_true, decide_eq_true_eq] at low ⊢
    simp
    omega
  simp [readEscape, hex.read, high, low]

theorem readEscape_pair {n m : Nat} {h l : List Char} (hex : Hex4 n h)
    (high : isHighSurrogate n = true) (hex' : Hex4 m l) (low : isLowSurrogate m = true)
    (rest : List Char) :
    readEscape ('u' :: (h ++ '\\' :: 'u' :: (l ++ rest))) =
      some (some (Char.ofNat (0x10000 + (n - 0xD800) * 0x400 + (m - 0xDC00))), rest) := by
  simp [readEscape, hex.read, hex'.read, high, low]

theorem readEscape_highHalf {n : Nat} {h rest : List Char} (hex : Hex4 n h)
    (high : isHighSurrogate n = true)
    (alone : ∀ m l after, Hex4 m l → isLowSurrogate m = true → rest ≠ '\\' :: 'u' :: (l ++ after)) :
    readEscape ('u' :: (h ++ rest)) = some (none, rest) := by
  simp only [readEscape, hex.read, high, Option.bind_eq_bind, Option.bind_some, if_true]
  split
  · rename_i low
    cases read : readHex4 low with
    | none => rfl
    | some found =>
      obtain ⟨m, after⟩ := found
      obtain ⟨l, hex', rfl⟩ := hex4_of_read read
      have other : isLowSurrogate m = false :=
        Bool.eq_false_iff.2 fun surrogate => alone m l after hex' surrogate rfl
      simp [other]
  · rfl

theorem readChars_plain {c : Char} {s rest : List Char} {us : List Piece} {n : Nat}
    (printed : 32 ≤ c.toNat) (quote : c ≠ '"') (mark : c ≠ '\\')
    (h : readChars n s = some (us, rest)) :
    readChars (n + 1) (c :: s) = some (some c :: us, rest) := by
  rw [readChars, if_neg (Nat.not_lt.2 printed), h]
  · rfl
  · exact quote
  · exact mark

theorem readChars_escape {s s' rest : List Char} {u : Piece} {us : List Piece} {n : Nat}
    (escape : readEscape s = some (u, s')) (h : readChars n s' = some (us, rest)) :
    readChars (n + 1) ('\\' :: s) = some (u :: us, rest) := by
  simp [readChars, escape, h]

theorem Spells.read {us : List Piece} {s : List Char} (h : Spells us s) (rest : List Char)
    {n : Nat} (fuel : s.length < n) : readChars n (s ++ '"' :: rest) = some (us, rest) := by
  induction h generalizing n
  all_goals
    obtain ⟨n, rfl⟩ : ∃ m, n = m + 1 := ⟨n - 1, by omega⟩
    simp only [List.length_nil, List.length_cons, List.length_append] at fuel
  case nil => rfl
  case plain printed quote mark _ ih => exact readChars_plain printed quote mark (ih (by omega))
  case short listed _ ih => exact readChars_escape (readEscape_short listed _) (ih (by omega))
  case code hex high low _ ih =>
    refine readChars_escape ?_ (ih (by omega))
    simpa using readEscape_code hex high low _
  case pair hex high hex' low _ ih =>
    refine readChars_escape ?_ (ih (by omega))
    simpa using readEscape_pair hex high hex' low _
  case lowHalf hex low _ ih =>
    refine readChars_escape ?_ (ih (by omega))
    simpa using readEscape_lowHalf hex low _
  case highHalf hex high alone _ ih =>
    refine readChars_escape ?_ (ih (by omega))
    refine (congrArg readEscape (by simp)).trans (readEscape_highHalf hex high ?_)
    intro m l after hex' low goesOn
    obtain ⟨s', inside⟩ := hex'.within goesOn
    exact alone m l s' hex' low inside

theorem SpellsString.read {o : Option String} {s : List Char} (h : SpellsString o s)
    (rest : List Char) :
    ∃ s', s ++ rest = '"' :: s' ∧ readString s' = some (o, rest) := by
  obtain ⟨inside⟩ := h
  rename_i us s
  refine ⟨s ++ '"' :: rest, by simp, ?_⟩
  have fuel : s.length < (s ++ '"' :: rest).length + 1 := by
    rw [List.length_append]
    omega
  simp only [readString, inside.read rest fuel, Option.bind_eq_bind, Option.bind_some]

/-- No character that would go on with a number comes next. -/
def Ends (rest : List Char) : Prop :=
  ∀ c ∈ rest.head?, c.isDigit = false ∧ c ≠ '.' ∧ c ≠ 'e' ∧ c ≠ 'E'

theorem Digits.take {ds rest : List Char} (h : Digits ds)
    (stops : ∀ c ∈ rest.head?, c.isDigit = false) : takeDigits (ds ++ rest) = (ds, rest) := by
  have none : rest.takeWhile Char.isDigit = [] ∧ rest.dropWhile Char.isDigit = rest := by
    cases rest with
    | nil => exact ⟨rfl, rfl⟩
    | cons c rest =>
      have other := stops c rfl
      exact ⟨List.takeWhile_cons_of_neg (by simp [other]),
        List.dropWhile_cons_of_neg (by simp [other])⟩
  rw [takeDigits, List.takeWhile_append_of_pos h.2, List.dropWhile_append_of_pos h.2, none.1,
    none.2, List.append_nil]

theorem Digits.head {ds : List Char} (h : Digits ds) (rest : List Char) :
    ∃ d s, ds ++ rest = d :: s ∧ d.isDigit = true := by
  obtain ⟨nonempty, all⟩ := h
  cases ds with
  | nil => exact absurd rfl nonempty
  | cons d ds => exact ⟨d, ds ++ rest, rfl, all d List.mem_cons_self⟩

theorem readExponent_mark {e : Char} (mark : e = 'e' ∨ e = 'E') (s : List Char) :
    readExponent (e :: s) = readExponentDigits s := by
  rcases mark with rfl | rfl <;> rfl

theorem readExponentDigits_unsigned {ds rest : List Char} (digits : Digits ds)
    (stops : ∀ c ∈ rest.head?, c.isDigit = false) :
    readExponentDigits (ds ++ rest) = some (some (false, ds), rest) := by
  have taken := digits.take stops
  obtain ⟨d, s, starts, isDigit⟩ := digits.head rest
  rw [starts] at taken ⊢
  unfold readExponentDigits
  split
  rename_i signed
  split at signed
  · rename_i plus
    obtain ⟨rfl, -⟩ := List.cons.inj plus
    cases isDigit
  · rename_i minus
    obtain ⟨rfl, -⟩ := List.cons.inj minus
    cases isDigit
  · cases signed
    simp [taken, digits.1]

theorem SpellsExponent.read {exponent : Option (Bool × List Char)} {e rest : List Char}
    (h : SpellsExponent exponent e) (ends : Ends rest) :
    readExponent (e ++ rest) = some (exponent, rest) := by
  have stops : ∀ c ∈ rest.head?, c.isDigit = false := fun c hc => (ends c hc).1
  cases h with
  | absent =>
    rw [List.nil_append, readExponent]
    · rintro s rfl
      exact (ends 'e' rfl).2.2.1 rfl
    · rintro s rfl
      exact (ends 'E' rfl).2.2.2 rfl
  | unsigned mark digits =>
    rw [List.cons_append, readExponent_mark mark, readExponentDigits_unsigned digits stops]
  | plus mark digits =>
    rw [List.cons_append, readExponent_mark mark]
    simp [readExponentDigits, digits.take stops, digits.1]
  | minus mark digits =>
    rw [List.cons_append, readExponent_mark mark]
    simp [readExponentDigits, digits.take stops, digits.1]

/-- An exponent starts with a letter. -/
theorem SpellsExponent.stops {exponent : Option (Bool × List Char)} {e rest : List Char}
    (h : SpellsExponent exponent e) (ends : Ends rest) :
    ∀ c ∈ (e ++ rest).head?, c.isDigit = false ∧ c ≠ '.' := by
  intro c first
  cases h with
  | absent => exact ⟨(ends c first).1, (ends c first).2.1⟩
  | unsigned mark digits | plus mark digits | minus mark digits =>
    obtain rfl := Option.some.inj first
    rcases mark with rfl | rfl <;> decide

theorem SpellsFraction.read {fraction f rest : List Char} (h : SpellsFraction fraction f)
    (stops : ∀ c ∈ rest.head?, c.isDigit = false ∧ c ≠ '.') :
    readFraction (f ++ rest) = some (fraction, rest) := by
  cases h with
  | absent =>
    rw [List.nil_append, readFraction]
    rintro s rfl
    exact (stops '.' rfl).2 rfl
  | point digits =>
    simp [readFraction, digits.take fun c first => (stops c first).1, digits.1]

theorem SpellsFraction.stops {fraction f rest : List Char} (h : SpellsFraction fraction f)
    (stops : ∀ c ∈ rest.head?, c.isDigit = false ∧ c ≠ '.') :
    ∀ c ∈ (f ++ rest).head?, c.isDigit = false := by
  intro c first
  cases h with
  | absent => exact (stops c first).1
  | point digits =>
    obtain rfl := Option.some.inj first
    decide

theorem SpellsNumeral.read {n : Numeral} {s rest : List Char} (h : SpellsNumeral n s)
    (ends : Ends rest) : readNumeral (s ++ rest) = some (n, rest) := by
  obtain ⟨negative, digits, zero, point, power⟩ := h
  rename_i whole fraction f e exponent
  have afterFraction := power.stops ends
  have taken : takeDigits (whole ++ (f ++ (e ++ rest))) = (whole, f ++ (e ++ rest)) :=
    digits.take (point.stops afterFraction)
  have alone : ¬(whole = [] ∨ whole.head? = some '0' ∧ whole.length > 1) := by
    rintro (empty | ⟨first, long⟩)
    · exact digits.1 empty
    · rw [zero first] at long
      exact absurd long (by decide)
  cases negative with
  | true =>
    simp [readNumeral, taken, alone, point.read afterFraction, power.read ends]
  | false =>
    obtain ⟨d, s, starts, isDigit⟩ := digits.head (f ++ (e ++ rest))
    have plus : d ≠ '-' := by
      rintro rfl
      cases isDigit
    rw [starts] at taken
    simp [readNumeral, starts, plus, taken, alone, point.read afterFraction, power.read ends]

theorem skipBlank_cons {c : Char} (blank : isBlank c = true) (s : List Char) :
    skipBlank (c :: s) = skipBlank s := List.dropWhile_cons_of_pos blank

theorem skipBlank_append {b : List Char} (blank : ∀ c ∈ b, isBlank c = true) (s : List Char) :
    skipBlank (b ++ s) = skipBlank s := List.dropWhile_append_of_pos blank

theorem skipBlank_of_sign {c : Char} (sign : isBlank c = false) (s : List Char) :
    skipBlank (c :: s) = c :: s := List.dropWhile_cons_of_neg (by simp [sign])

theorem skipBlank_skipBlank (s : List Char) : skipBlank (skipBlank s) = skipBlank s := by
  induction s with
  | nil => rfl
  | cons c s ih =>
    cases blank : isBlank c with
    | true => rw [skipBlank_cons blank, ih]
    | false => rw [skipBlank_of_sign blank, skipBlank_of_sign blank]

theorem readTree_skipBlank (n : Nat) (s : List Char) : readTree n (skipBlank s) = readTree n s := by
  cases n with
  | zero => rfl
  | succ n => rw [readTree, readTree, skipBlank_skipBlank]

theorem readItems_skipBlank (n : Nat) (s : List Char) :
    readItems n (skipBlank s) = readItems n s := by
  cases n with
  | zero => rfl
  | succ n => rw [readItems, readItems, readTree_skipBlank]

theorem readMembers_skipBlank (n : Nat) (s : List Char) :
    readMembers n (skipBlank s) = readMembers n s := by
  cases n with
  | zero => rfl
  | succ n => rw [readMembers, readMembers, skipBlank_skipBlank]

theorem readItems_bracket (n : Nat) (s : List Char) : readItems n (']' :: s) = none := by
  obtain _ | _ | n := n <;> rfl

theorem readMembers_brace (n : Nat) (s : List Char) : readMembers n ('\x7d' :: s) = none := by
  obtain _ | n := n <;> rfl

theorem ends_of_blank {c : Char} (blank : isBlank c = true) (s : List Char) : Ends (c :: s) := by
  intro d first
  obtain rfl := Option.some.inj first
  simp only [isBlank, Bool.or_eq_true, beq_iff_eq] at blank
  rcases blank with ((rfl | rfl) | rfl) | rfl <;> decide

theorem ends_of_sign {c : Char} (sign : c = ',' ∨ c = ']' ∨ c = '\x7d') (s : List Char) :
    Ends (c :: s) := by
  intro d first
  obtain rfl := Option.some.inj first
  rcases sign with rfl | rfl | rfl <;> decide

/-- How reading goes on a text with more behind it. Of a value it may leave blanks; items and
members are read up to their closing bracket. -/
def Phrase.Reads (s : List Char) : Phrase → Prop
  | .value t => ∀ n rest, s.length ≤ n → Ends rest →
      ∃ left, readTree (n + 1) (s ++ rest) = some (t, left) ∧ skipBlank left = skipBlank rest
  | .items ts => ∀ n rest, s.length ≤ n →
      readItems (n + 2) (s ++ ']' :: rest) = some (ts, rest)
  | .members ms => ∀ n rest, s.length ≤ n →
      readMembers (n + 2) (s ++ '\x7d' :: rest) = some (ms, rest)

theorem SpellsNumeral.starts {n : Numeral} {s : List Char} (h : SpellsNumeral n s) :
    ∃ c s', s = c :: s' ∧ (c.isDigit = true ∨ c = '-') := by
  obtain ⟨negative, digits, -, -, -⟩ := h
  cases negative with
  | true => exact ⟨'-', _, rfl, .inr rfl⟩
  | false =>
    obtain ⟨d, s, starts, isDigit⟩ := digits.head []
    rw [List.append_nil] at starts
    exact ⟨d, _, by rw [starts]; rfl, .inl isDigit⟩

/-- What starts like a number is read as one. -/
theorem readTree_numeral {n : Nat} {c : Char} {s rest : List Char} {m : Numeral}
    (first : c.isDigit = true ∨ c = '-') (read : readNumeral (c :: s) = some (m, rest)) :
    readTree (n + 1) (c :: s) = some (.number m, rest) := by
  have sign : isBlank c = false := by
    rw [Bool.eq_false_iff]
    intro blank
    simp only [isBlank, Bool.or_eq_true, beq_iff_eq] at blank
    rcases blank with ((rfl | rfl) | rfl) | rfl <;> exact absurd first (by decide)
  rw [readTree, skipBlank_of_sign sign]
  split
  case h_7 => rw [read]; rfl
  all_goals
    rename_i other
    obtain ⟨rfl, -⟩ := List.cons.inj other
    exact absurd first (by decide)

theorem readTree_string {n : Nat} {s rest : List Char} {o : Option String}
    (read : readString s = some (o, rest)) :
    readTree (n + 1) ('"' :: s) = some (.string o, rest) := by
  have sign : isBlank '"' = false := rfl
  simp only [readTree, skipBlank_of_sign sign, read, Option.bind_eq_bind, Option.bind_some]

theorem readTree_array {n : Nat} {s rest : List Char} {ts : List Tree}
    (read : readItems n s = some (ts, rest)) :
    readTree (n + 1) ('[' :: s) = some (.array ts, rest) := by
  have sign : isBlank '[' = false := rfl
  simp only [readTree, skipBlank_of_sign sign]
  rw [← readItems_skipBlank] at read
  split
  · rename_i closed
    rw [closed, readItems_bracket] at read
    cases read
  · rw [read]
    rfl

theorem readTree_object {n : Nat} {s rest : List Char} {ms : List (Option String × Tree)}
    (read : readMembers n s = some (ms, rest)) :
    readTree (n + 1) ('\x7b' :: s) = some (.object ms, rest) := by
  have sign : isBlank '\x7b' = false := rfl
  simp only [readTree, skipBlank_of_sign sign]
  rw [← readMembers_skipBlank] at read
  split
  · rename_i closed
    rw [closed, readMembers_brace] at read
    cases read
  · rw [read]
    rfl

theorem readTree_noItems {n : Nat} {b rest : List Char} (blank : ∀ c ∈ b, isBlank c = true) :
    readTree (n + 1) ('[' :: (b ++ ']' :: rest)) = some (.array [], rest) := by
  have sign : isBlank '[' = false := rfl
  have close : isBlank ']' = false := rfl
  simp only [readTree, skipBlank_of_sign sign, skipBlank_append blank, skipBlank_of_sign close]

theorem readTree_noMembers {n : Nat} {b rest : List Char} (blank : ∀ c ∈ b, isBlank c = true) :
    readTree (n + 1) ('\x7b' :: (b ++ '\x7d' :: rest)) = some (.object [], rest) := by
  have sign : isBlank '\x7b' = false := rfl
  have close : isBlank '\x7d' = false := rfl
  simp only [readTree, skipBlank_of_sign sign, skipBlank_append blank, skipBlank_of_sign close]

/-- A value between brackets, and the sign behind it. -/
theorem readItems_value {n : Nat} {s left rest : List Char} {t : Tree} {c : Char}
    (read : readTree n s = some (t, left)) (next : skipBlank left = c :: rest) :
    (c = ']' → readItems (n + 1) s = some ([t], rest)) ∧
      (c = ',' → readItems (n + 1) s = (readItems n rest).map fun r => (t :: r.1, r.2)) := by
  constructor
  · rintro rfl
    simp [readItems, read, next]
  · rintro rfl
    simp only [readItems, read, next, Option.bind_eq_bind, Option.bind_some]
    cases readItems n rest <;> rfl

/-- A key and its value, and the sign behind them. -/
theorem readMembers_value {n : Nat} {b k b' s left rest : List Char} {key : Option String}
    {t : Tree} {c : Char} (blank : ∀ c ∈ b, isBlank c = true) (spelled : SpellsString key k)
    (blank' : ∀ c ∈ b', isBlank c = true) (read : readTree n s = some (t, left))
    (next : skipBlank left = c :: rest) :
    (c = '\x7d' → readMembers (n + 1) (b ++ k ++ b' ++ ':' :: s) = some ([(key, t)], rest)) ∧
      (c = ',' → readMembers (n + 1) (b ++ k ++ b' ++ ':' :: s) =
        (readMembers n rest).map fun r => ((key, t) :: r.1, r.2)) := by
  obtain ⟨q, starts, string⟩ := spelled.read (b' ++ ':' :: s)
  have found : skipBlank (b ++ k ++ b' ++ ':' :: s) = '"' :: q := by
    rw [List.append_assoc, List.append_assoc, skipBlank_append blank, starts]
    exact skipBlank_of_sign rfl q
  have colon : skipBlank (b' ++ ':' :: s) = ':' :: s := by
    rw [skipBlank_append blank']
    exact skipBlank_of_sign rfl s
  constructor
  · rintro rfl
    simp only [readMembers, found, string, colon, read, next, Option.bind_eq_bind,
      Option.bind_some]
  · rintro rfl
    simp only [readMembers, found, string, colon, read, next, Option.bind_eq_bind,
      Option.bind_some]
    cases readMembers n rest <;> rfl

/-- Reading finds what a text denotes, whatever comes behind it. -/
theorem Denotes.reads {s : List Char} {p : Phrase} (h : Denotes s p) : p.Reads s := by
  induction h with
  | null => exact fun n rest _ _ => ⟨rest, rfl, rfl⟩
  | isTrue => exact fun n rest _ _ => ⟨rest, rfl, rfl⟩
  | isFalse => exact fun n rest _ _ => ⟨rest, rfl, rfl⟩
  | number spelled =>
    intro n rest _ ends
    obtain ⟨c, s', rfl, first⟩ := spelled.starts
    exact ⟨rest, readTree_numeral first (spelled.read ends), rfl⟩
  | string spelled =>
    intro n rest _ _
    obtain ⟨s', starts, read⟩ := spelled.read rest
    rw [starts]
    exact ⟨rest, readTree_string read, rfl⟩
  | noItems blank =>
    intro n rest _ _
    exact ⟨rest, by simpa using readTree_noItems blank, rfl⟩
  | noMembers blank =>
    intro n rest _ _
    exact ⟨rest, by simpa using readTree_noMembers blank, rfl⟩
  | array _ ih =>
    intro n rest fuel _
    simp only [List.length_cons, List.length_append] at fuel
    obtain ⟨n, rfl⟩ : ∃ m, n = m + 2 := ⟨n - 2, by omega⟩
    exact ⟨rest, by simpa using readTree_array (ih n rest (by omega)), rfl⟩
  | object _ ih =>
    intro n rest fuel _
    simp only [List.length_cons, List.length_append] at fuel
    obtain ⟨n, rfl⟩ : ∃ m, n = m + 2 := ⟨n - 2, by omega⟩
    exact ⟨rest, by simpa using readTree_object (ih n rest (by omega)), rfl⟩
  | before blank _ ih =>
    intro n rest fuel ends
    obtain ⟨left, read, same⟩ := ih n rest (Nat.le_of_succ_le fuel) ends
    refine ⟨left, ?_, same⟩
    rw [← read, ← readTree_skipBlank, List.cons_append, skipBlank_cons blank, readTree_skipBlank]
  | @after c s _ blank _ ih =>
    intro n rest fuel _
    rw [List.length_append] at fuel
    obtain ⟨left, read, same⟩ := ih n (c :: rest) (by omega) (ends_of_blank blank rest)
    refine ⟨left, ?_, same.trans (skipBlank_cons blank rest)⟩
    simpa using read
  | lastItem _ ih =>
    intro n rest fuel
    obtain ⟨left, read, same⟩ := ih n (']' :: rest) fuel (ends_of_sign (.inr (.inl rfl)) rest)
    exact (readItems_value read (same.trans (skipBlank_of_sign rfl rest))).1 rfl
  | @item s s' _ _ _ _ ih ih' =>
    intro n rest fuel
    simp only [List.length_append, List.length_cons] at fuel
    obtain ⟨left, read, same⟩ :=
      ih n (',' :: (s' ++ ']' :: rest)) (by omega) (ends_of_sign (.inl rfl) _)
    have more := (readItems_value read (same.trans (skipBlank_of_sign rfl _))).2 rfl
    obtain ⟨n, rfl⟩ : ∃ m, n = m + 1 := ⟨n - 1, by omega⟩
    rw [ih' n rest (by omega)] at more
    simpa using more
  | lastMember blank spelled blank' _ ih =>
    intro n rest fuel
    simp only [List.length_append, List.length_cons] at fuel
    obtain ⟨left, read, same⟩ :=
      ih n ('\x7d' :: rest) (by omega) (ends_of_sign (.inr (.inr rfl)) rest)
    have last := (readMembers_value blank spelled blank' read
      (same.trans (skipBlank_of_sign rfl rest))).1 rfl
    simpa using last
  | @member _ _ _ s s' _ _ _ blank spelled blank' _ _ ih ih' =>
    intro n rest fuel
    simp only [List.length_append, List.length_cons] at fuel
    obtain ⟨left, read, same⟩ :=
      ih n (',' :: (s' ++ '\x7d' :: rest)) (by omega) (ends_of_sign (.inl rfl) _)
    have more := (readMembers_value blank spelled blank' read
      (same.trans (skipBlank_of_sign rfl _))).2 rfl
    obtain ⟨n, rfl⟩ : ∃ m, n = m + 1 := ⟨n - 1, by omega⟩
    rw [ih' n rest (by omega)] at more
    simpa using more

/-- A text that denotes a tree is read as that tree. -/
theorem Tree.DenotedBy.parse {t : Tree} {s : String} (h : t.DenotedBy s) :
    Tree.parse s = some t := by
  obtain ⟨left, read, same⟩ := h.reads (2 * s.toList.length + 1) [] (by omega) nofun
  rw [List.append_nil] at read
  have blank : skipBlank left = [] := same
  simp only [Tree.parse, Tree.read, read, blank, if_true]

end ConnPool.Json
