/-!
# UTF-8

Characters to bytes and back. Decoding never fails: a stretch of bytes that is no character becomes
one `none`, and the stretch is the longest start of a character that the bytes hold. So a byte that
cannot continue a character always starts afresh.
-/

namespace UaaAdmin.Text.Utf8

/-- The bytes of a text. -/
def encode (s : String) : List UInt8 :=
  s.toList.flatMap String.utf8EncodeChar

/-! ## Decoding -/

/-- A character of which some bytes are read: `missing` bytes are to come, the next of them between
`low` and `high`, and the bytes read so far give the bits `bits`. -/
structure Pending where
  missing : Nat
  low : Nat
  high : Nat
  bits : Nat

/-- What a byte that starts afresh gives: a character of its own, the start of a longer one, or
nothing. -/
def start (b : Nat) : List (Option Char) × Option Pending :=
  if b < 0x80 then ([some (Char.ofNat b)], none)
  else if 0xc2 ≤ b && b ≤ 0xdf then ([], some ⟨1, 0x80, 0xbf, b - 0xc0⟩)
  else if b == 0xe0 then ([], some ⟨2, 0xa0, 0xbf, 0⟩)
  else if b == 0xed then ([], some ⟨2, 0x80, 0x9f, 0xd⟩)
  else if 0xe1 ≤ b && b ≤ 0xef then ([], some ⟨2, 0x80, 0xbf, b - 0xe0⟩)
  else if b == 0xf0 then ([], some ⟨3, 0x90, 0xbf, 0⟩)
  else if 0xf1 ≤ b && b ≤ 0xf3 then ([], some ⟨3, 0x80, 0xbf, b - 0xf0⟩)
  else if b == 0xf4 then ([], some ⟨3, 0x80, 0x8f, 4⟩)
  else ([none], none)

/-- What the byte `b` gives after the bytes of `pending`. -/
def advance (pending : Option Pending) (b : Nat) : List (Option Char) × Option Pending :=
  match pending with
  | none => start b
  | some p =>
    if p.low ≤ b && b ≤ p.high then
      let bits := p.bits * 64 + b % 64
      if p.missing ≤ 1 then ([some (Char.ofNat bits)], none)
      else ([], some ⟨p.missing - 1, 0x80, 0xbf, bits⟩)
    else
      let fresh := start b
      (none :: fresh.1, fresh.2)

/-- The characters of the bytes that follow those of `pending`. -/
def decodeFrom (pending : Option Pending) : List UInt8 → List (Option Char)
  | [] => if pending.isSome then [none] else []
  | b :: bs =>
    let step := advance pending b.toNat
    step.1 ++ decodeFrom step.2 bs

/-- The characters of the bytes, with `none` for each stretch that is no character. -/
def decode (bytes : List UInt8) : List (Option Char) :=
  decodeFrom none bytes

/-- The text of the bytes, with the replacement character for each stretch that is none. -/
def decodeLossy (bytes : List UInt8) : String :=
  String.ofList ((decode bytes).map fun c => c.getD (Char.ofNat 0xfffd))

end UaaAdmin.Text.Utf8
