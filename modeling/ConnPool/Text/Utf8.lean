namespace ConnPool.Text.Utf8

abbrev Piece := Option Char

/-- The bounds of the second byte, and how many bytes follow it, by the first byte. -/
def shape? (b : Nat) : Option (Nat × Nat × Nat) :=
  if 0xC2 ≤ b ∧ b ≤ 0xDF then some (0x80, 0xBF, 0)
  else if b = 0xE0 then some (0xA0, 0xBF, 1)
  else if b = 0xED then some (0x80, 0x9F, 1)
  else if 0xE1 ≤ b ∧ b ≤ 0xEF then some (0x80, 0xBF, 1)
  else if b = 0xF0 then some (0x90, 0xBF, 2)
  else if 0xF1 ≤ b ∧ b ≤ 0xF3 then some (0x80, 0xBF, 2)
  else if b = 0xF4 then some (0x80, 0x8F, 2)
  else none

/-- A character that is begun: its value so far, the bounds of the next byte, and how many bytes
follow that. -/
structure Partial where
  value : Nat
  low : Nat
  high : Nat
  more : Nat

def start (n : Nat) : Piece ⊕ Partial :=
  if n < 0x80 then .inl (some (Char.ofNat n))
  else
    match shape? n with
    | none => .inl none
    | some (low, high, more) =>
      let bits := if n < 0xE0 then n % 32 else if n < 0xF0 then n % 16 else n % 8
      .inr ⟨bits, low, high, more⟩

/-- The pieces of bytes. A byte that does not fit ends a broken sequence and begins anew. -/
def pieces : Option Partial → List UInt8 → List Piece
  | none, [] => []
  | some _, [] => [none]
  | none, b :: rest =>
    match start b.toNat with
    | .inl piece => piece :: pieces none rest
    | .inr p => pieces (some p) rest
  | some p, b :: rest =>
    let n := b.toNat
    if p.low ≤ n ∧ n ≤ p.high then
      let value := p.value * 64 + n % 64
      match p.more with
      | 0 => some (Char.ofNat value) :: pieces none rest
      | more + 1 => pieces (some ⟨value, 0x80, 0xBF, more⟩) rest
    else
      match start n with
      | .inl piece => none :: piece :: pieces none rest
      | .inr p => none :: pieces (some p) rest

def decode? (bytes : List UInt8) : Option String :=
  ((pieces none bytes).mapM id).map String.ofList

/-- The text of bytes with U+FFFD for every broken sequence. -/
def decodeLossy (bytes : List UInt8) : String :=
  String.ofList ((pieces none bytes).map (·.getD '\ufffd'))

end ConnPool.Text.Utf8
