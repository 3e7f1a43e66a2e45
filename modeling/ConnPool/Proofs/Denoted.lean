import ConnPool.Proofs.Grammar

namespace ConnPool.Json

theorem hex4_of_readEscape {s rest : List Char} {u : Piece}
    (h : readEscape ('u' :: s) = some (u, rest)) : ∃ n l s', Hex4 n l ∧ s = l ++ s' := by
  simp only [readEscape, Option.bind_eq_bind, Option.bind_eq_some_iff] at h
  obtain ⟨⟨n, s'⟩, read, -⟩ := h
  obtain ⟨l, hex, rfl⟩ := hex4_of_read read
  exact ⟨n, l, s', hex, rfl⟩

theorem spells_of_code {s rest s' after : List Char} {u : Piece} {us : List Piece}
    (h : readEscape ('u' :: s) = some (u, rest)) (quoted : rest = s' ++ '"' :: after)
    (inside : Spells us s') :
    ∃ l, s = l ++ rest ∧ Spells (u :: us) ('\\' :: 'u' :: (l ++ s')) := by
  obtain ⟨n, l, left, hex, rfl⟩ := hex4_of_readEscape h
  cases high : isHighSurrogate n with
  | false =>
    cases low : isLowSurrogate n with
    | false =>
      rw [readEscape_code hex high low] at h
      cases h
      exact ⟨l, rfl, .code hex high low inside⟩
    | true =>
      rw [readEscape_lowHalf hex low] at h
      cases h
      exact ⟨l, rfl, .lowHalf hex low inside⟩
  | true =>
    -- A low surrogate behind a high one belongs to it.
    by_cases pair : ∃ m l' s, Hex4 m l' ∧ isLowSurrogate m = true ∧
        left = '\\' :: 'u' :: (l' ++ s)
    · obtain ⟨m, l', s, hex', low, rfl⟩ := pair
      rw [readEscape_pair hex high hex' low] at h
      cases h
      refine ⟨l ++ '\\' :: 'u' :: l', by simp, ?_⟩
      simpa using Spells.pair hex high hex' low inside
    · have alone : ∀ m l' s, Hex4 m l' → isLowSurrogate m = true →
          left ≠ '\\' :: 'u' :: (l' ++ s) :=
        fun m l' s hex' low goesOn => pair ⟨m, l', s, hex', low, goesOn⟩
      rw [readEscape_highHalf hex high alone] at h
      cases h
      refine ⟨l, rfl, .highHalf hex high (fun m l' s hex' low goesOn => ?_) inside⟩
      refine alone m l' (s ++ '"' :: after) hex' low ?_
      rw [quoted, goesOn]
      simp

/-- What an escape denotes is spelled by the characters that were taken for it. -/
theorem spells_of_readEscape {s rest s' after : List Char} {u : Piece} {us : List Piece}
    (h : readEscape s = some (u, rest)) (quoted : rest = s' ++ '"' :: after)
    (inside : Spells us s') : ∃ l, s = l ++ rest ∧ Spells (u :: us) ('\\' :: (l ++ s')) := by
  have read := h
  unfold readEscape at read
  split at read
  case h_9 s =>
    obtain ⟨l, rfl, spelled⟩ := spells_of_code h quoted inside
    exact ⟨'u' :: l, rfl, spelled⟩
  case h_10 => cases read
  all_goals
    cases read
    exact ⟨[_], rfl, .short (by decide) inside⟩

theorem spells_of_readChars {n : Nat} {s rest : List Char} {us : List Piece}
    (h : readChars n s = some (us, rest)) : ∃ s', s = s' ++ '"' :: rest ∧ Spells us s' := by
  induction n generalizing s us with
  | zero => cases h
  | succ n ih =>
    unfold readChars at h
    split at h
    · cases h
    · cases h
      exact ⟨[], rfl, .nil⟩
    · simp only [Option.bind_eq_bind, Option.bind_eq_some_iff] at h
      obtain ⟨⟨u, left⟩, escape, ⟨vs, right⟩, chars, h⟩ := h
      cases h
      obtain ⟨s', quoted, inside⟩ := ih chars
      obtain ⟨l, rfl, spelled⟩ := spells_of_readEscape escape quoted inside
      have whole : '\\' :: (l ++ left) = '\\' :: (l ++ s') ++ '"' :: right := by
        simpa using quoted
      exact ⟨_, whole, spelled⟩
    · rename_i c tail quote mark
      split at h
      · cases h
      · rename_i printed
        simp only [Option.bind_eq_bind, Option.bind_eq_some_iff] at h
        obtain ⟨⟨vs, right⟩, chars, h⟩ := h
        cases h
        obtain ⟨s', rfl, inside⟩ := ih chars
        exact ⟨c :: s', rfl, .plain (Nat.not_lt.1 printed) quote mark inside⟩

theorem spells_of_readString {s rest : List Char} {o : Option String}
    (h : readString s = some (o, rest)) : ∃ k, '"' :: s = k ++ rest ∧ SpellsString o k := by
  simp only [readString, Option.bind_eq_bind, Option.bind_eq_some_iff] at h
  obtain ⟨⟨us, right⟩, chars, h⟩ := h
  cases h
  obtain ⟨s', rfl, inside⟩ := spells_of_readChars chars
  exact ⟨'"' :: (s' ++ ['"']), by simp, .quoted inside⟩

theorem takeDigits_parts {s ds rest : List Char} (h : takeDigits s = (ds, rest)) :
    s = ds ++ rest ∧ ∀ c ∈ ds, c.isDigit = true := by
  cases h
  exact ⟨List.takeWhile_append_dropWhile.symm, List.all_eq_true.1 List.all_takeWhile⟩

theorem spells_of_readFraction {s rest fraction : List Char}
    (h : readFraction s = some (fraction, rest)) :
    ∃ f, s = f ++ rest ∧ SpellsFraction fraction f := by
  unfold readFraction at h
  split at h
  · rename_i tail
    cases taken : takeDigits tail with
    | mk ds left =>
      simp only [taken] at h
      split at h
      · cases h
      · rename_i some
        cases h
        obtain ⟨rfl, digits⟩ := takeDigits_parts taken
        exact ⟨'.' :: fraction, rfl, .point ⟨some, digits⟩⟩
  · cases h
    exact ⟨[], rfl, .absent⟩

theorem spells_of_readExponentDigits {e : Char} (mark : e = 'e' ∨ e = 'E') {s rest : List Char}
    {exponent : Option (Bool × List Char)} (h : readExponentDigits s = some (exponent, rest)) :
    ∃ l, e :: s = l ++ rest ∧ SpellsExponent exponent l := by
  unfold readExponentDigits at h
  split at h
  rename_i negative tail signed
  cases taken : takeDigits tail with
  | mk ds left =>
    simp only [taken] at h
    split at h
    · cases h
    · rename_i some
      cases h
      obtain ⟨rfl, all⟩ := takeDigits_parts taken
      have digits : Digits ds := ⟨some, all⟩
      split at signed <;> cases signed
      · exact ⟨e :: '+' :: ds, rfl, .plus mark digits⟩
      · exact ⟨e :: '-' :: ds, rfl, .minus mark digits⟩
      · exact ⟨e :: ds, rfl, .unsigned mark digits⟩

theorem spells_of_readExponent {s rest : List Char} {exponent : Option (Bool × List Char)}
    (h : readExponent s = some (exponent, rest)) :
    ∃ e, s = e ++ rest ∧ SpellsExponent exponent e := by
  unfold readExponent at h
  split at h
  · exact spells_of_readExponentDigits (.inl rfl) h
  · exact spells_of_readExponentDigits (.inr rfl) h
  · cases h
    exact ⟨[], rfl, .absent⟩

theorem spells_of_readNumeral {s rest : List Char} {n : Numeral}
    (h : readNumeral s = some (n, rest)) : ∃ k, s = k ++ rest ∧ SpellsNumeral n k := by
  unfold readNumeral at h
  split at h
  rename_i negative tail signed
  cases taken : takeDigits tail with
  | mk whole left =>
    simp only [taken, Option.bind_eq_bind] at h
    split at h
    · cases h
    · rename_i alone
      rw [not_or, not_and] at alone
      simp only [Option.bind_eq_some_iff] at h
      obtain ⟨⟨fraction, right⟩, readPoint, ⟨exponent, behind⟩, readPower, h⟩ := h
      cases h
      obtain ⟨rfl, digits⟩ := takeDigits_parts taken
      obtain ⟨f, rfl, point⟩ := spells_of_readFraction readPoint
      obtain ⟨e, rfl, power⟩ := spells_of_readExponent readPower
      have zero : whole.head? = some '0' → whole = ['0'] := by
        intro first
        obtain ⟨more, rfl⟩ := List.head?_eq_some_iff.1 first
        have short := alone.2 first
        rw [List.length_cons] at short
        rw [List.length_eq_zero_iff.1 (by omega : more.length = 0)]
      have spelled := SpellsNumeral.parts negative ⟨alone.1, digits⟩ zero point power
      split at signed <;> cases signed
      · exact ⟨_, by simp, spelled⟩
      · exact ⟨_, by simp, spelled⟩

theorem skipBlank_parts (s : List Char) :
    ∃ b, (∀ c ∈ b, isBlank c = true) ∧ s = b ++ skipBlank s :=
  ⟨s.takeWhile isBlank, List.all_eq_true.1 List.all_takeWhile,
    List.takeWhile_append_dropWhile.symm⟩

theorem Denotes.behind {b s : List Char} {t : Tree} (blank : ∀ c ∈ b, isBlank c = true)
    (h : Denotes s (.value t)) : Denotes (b ++ s) (.value t) := by
  induction b with
  | nil => exact h
  | cons c b ih =>
    exact .before (blank c List.mem_cons_self) (ih fun d hd => blank d (List.mem_cons_of_mem c hd))

theorem Denotes.beforeBlank {b s : List Char} {t : Tree} (blank : ∀ c ∈ b, isBlank c = true)
    (h : Denotes s (.value t)) : Denotes (s ++ b) (.value t) := by
  induction b generalizing s with
  | nil => simpa using h
  | cons c b ih =>
    have more := ih (fun d hd => blank d (List.mem_cons_of_mem c hd))
      (.after (blank c List.mem_cons_self) h)
    simpa using more

structure Found (n : Nat) : Prop where
  tree : ∀ {s rest : List Char} {t : Tree}, readTree n s = some (t, rest) →
    ∃ s', s = s' ++ rest ∧ Denotes s' (.value t)
  items : ∀ {s rest : List Char} {ts : List Tree}, readItems n s = some (ts, rest) →
    ∃ s', s = s' ++ ']' :: rest ∧ Denotes s' (.items ts)
  members : ∀ {s rest : List Char} {ms : List (Option String × Tree)},
    readMembers n s = some (ms, rest) →
    ∃ s', s = s' ++ '\x7d' :: rest ∧ Denotes s' (.members ms)

theorem Found.next_tree {n : Nat} (h : Found n) {s rest : List Char} {t : Tree}
    (read : readTree (n + 1) s = some (t, rest)) :
    ∃ s', s = s' ++ rest ∧ Denotes s' (.value t) := by
  obtain ⟨b, blank, split⟩ := skipBlank_parts s
  suffices ∃ s', skipBlank s = s' ++ rest ∧ Denotes s' (.value t) by
    obtain ⟨s', starts, value⟩ := this
    exact ⟨b ++ s', by rw [List.append_assoc, ← starts]; exact split, value.behind blank⟩
  unfold readTree at read
  split at read
  case h_1 starts =>
    cases read
    exact ⟨_, starts, .null⟩
  case h_2 starts =>
    cases read
    exact ⟨_, starts, .isTrue⟩
  case h_3 starts =>
    cases read
    exact ⟨_, starts, .isFalse⟩
  case h_4 starts =>
    simp only [Option.bind_eq_bind, Option.bind_eq_some_iff] at read
    obtain ⟨⟨o, left⟩, string, read⟩ := read
    cases read
    obtain ⟨k, whole, spelled⟩ := spells_of_readString string
    exact ⟨k, starts.trans whole, .string spelled⟩
  case h_5 tail starts =>
    obtain ⟨b, blank, inside⟩ := skipBlank_parts tail
    split at read
    · rename_i closed
      cases read
      refine ⟨_, ?_, .noItems blank⟩
      rw [starts, inside, closed]
      simp
    · simp only [Option.bind_eq_bind, Option.bind_eq_some_iff] at read
      obtain ⟨⟨ts, left⟩, items, read⟩ := read
      cases read
      rw [readItems_skipBlank] at items
      obtain ⟨s', rfl, phrase⟩ := h.items items
      exact ⟨_, by simpa using starts, .array phrase⟩
  case h_6 tail starts =>
    obtain ⟨b, blank, inside⟩ := skipBlank_parts tail
    split at read
    · rename_i closed
      cases read
      refine ⟨_, ?_, .noMembers blank⟩
      rw [starts, inside, closed]
      simp
    · simp only [Option.bind_eq_bind, Option.bind_eq_some_iff] at read
      obtain ⟨⟨ms, left⟩, members, read⟩ := read
      cases read
      rw [readMembers_skipBlank] at members
      obtain ⟨s', rfl, phrase⟩ := h.members members
      exact ⟨_, by simpa using starts, .object phrase⟩
  case h_7 =>
    simp only [Option.bind_eq_bind, Option.bind_eq_some_iff] at read
    obtain ⟨⟨m, left⟩, number, read⟩ := read
    cases read
    obtain ⟨k, whole, spelled⟩ := spells_of_readNumeral number
    exact ⟨k, whole, .number spelled⟩

theorem Found.next_items {n : Nat} (h : Found n) {s rest : List Char} {ts : List Tree}
    (read : readItems (n + 1) s = some (ts, rest)) :
    ∃ s', s = s' ++ ']' :: rest ∧ Denotes s' (.items ts) := by
  simp only [readItems, Option.bind_eq_bind, Option.bind_eq_some_iff] at read
  obtain ⟨⟨t, left⟩, readValue, read⟩ := read
  obtain ⟨s', rfl, value⟩ := h.tree readValue
  obtain ⟨b, blank, between⟩ := skipBlank_parts left
  split at read
  · rename_i close
    cases read
    refine ⟨s' ++ b, ?_, .lastItem (value.beforeBlank blank)⟩
    rw [between, close]
    simp
  · rename_i comma
    simp only [Option.bind_eq_some_iff] at read
    obtain ⟨⟨more, right⟩, items, read⟩ := read
    cases read
    obtain ⟨s'', rfl, phrase⟩ := h.items items
    refine ⟨_, ?_, .item (value.beforeBlank blank) phrase⟩
    rw [between, comma]
    simp
  · cases read

theorem Found.next_members {n : Nat} (h : Found n) {s rest : List Char}
    {ms : List (Option String × Tree)} (read : readMembers (n + 1) s = some (ms, rest)) :
    ∃ s', s = s' ++ '\x7d' :: rest ∧ Denotes s' (.members ms) := by
  obtain ⟨b, blank, front⟩ := skipBlank_parts s
  unfold readMembers at read
  split at read
  · rename_i starts
    simp only [Option.bind_eq_bind, Option.bind_eq_some_iff] at read
    obtain ⟨⟨key, behind⟩, string, read⟩ := read
    obtain ⟨k, whole, spelled⟩ := spells_of_readString string
    obtain ⟨b', blank', middle⟩ := skipBlank_parts behind
    split at read
    · rename_i colon
      simp only [Option.bind_eq_some_iff] at read
      obtain ⟨⟨t, left⟩, readValue, read⟩ := read
      obtain ⟨s', rfl, value⟩ := h.tree readValue
      obtain ⟨b'', blank'', between⟩ := skipBlank_parts left
      have text : s = b ++ k ++ b' ++ ':' :: (s' ++ b'' ++ skipBlank left) := by
        rw [front, starts, whole, middle, colon]
        simp [← between]
      split at read
      · rename_i close
        cases read
        refine ⟨_, ?_, .lastMember blank spelled blank' (value.beforeBlank blank'')⟩
        rw [text, close]
        simp
      · rename_i comma
        simp only [Option.bind_eq_some_iff] at read
        obtain ⟨⟨more, right⟩, members, read⟩ := read
        cases read
        obtain ⟨s'', rfl, phrase⟩ := h.members members
        refine ⟨_, ?_, .member blank spelled blank' (value.beforeBlank blank'') phrase⟩
        rw [text, comma]
        simp
      · cases read
    · cases read
  · cases read

theorem found (n : Nat) : Found n := by
  induction n with
  | zero => exact ⟨nofun, nofun, nofun⟩
  | succ n ih => exact ⟨ih.next_tree, ih.next_items, ih.next_members⟩

/-- A text is read as a tree just when it denotes that tree. -/
theorem Tree.parse_eq_some_iff {s : String} {t : Tree} :
    Tree.parse s = some t ↔ t.DenotedBy s := by
  refine ⟨fun read => ?_, DenotedBy.parse⟩
  unfold Tree.parse Tree.read at read
  split at read
  · rename_i left value
    split at read
    · rename_i ended
      obtain rfl := Option.some.inj read
      obtain ⟨s', whole, denotes⟩ := (found _).tree value
      obtain ⟨b, blank, rest⟩ := skipBlank_parts left
      rw [ended, List.append_nil] at rest
      subst rest
      rw [DenotedBy, whole]
      exact denotes.beforeBlank blank
    · cases read
  · cases read

end ConnPool.Json
