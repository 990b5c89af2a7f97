/-!
# Binary elements

Bytes in which every value stands behind a tag, which says what it is, and its length. `Reading`
takes such values one after the other; `Reading.whole?` asks that nothing is left over.
`element?_length` says that each value takes at least one byte.
-/

namespace UaaAdmin.Element

/-- Splits the length of a value off the bytes. It is written as short as can be, and is below
65535. -/
def length? : List UInt8 → Option (Nat × List UInt8)
  | [] => none
  | b :: bs =>
    if b.toNat < 0x80 then some (b.toNat, bs)
    else
      match b, bs with
      | 0x81, m :: bs => if 0x80 ≤ m.toNat then some (m.toNat, bs) else none
      | 0x82, m :: n :: bs =>
        let count := m.toNat * 256 + n.toNat
        if 0x100 ≤ count && count < 0xffff then some (count, bs) else none
      | _, _ => none

/-- Splits a value with this tag off the bytes, and gives what follows. -/
def element? (tag : UInt8) : List UInt8 → Option (List UInt8 × List UInt8)
  | [] => none
  | t :: bs =>
    if t ≠ tag then none
    else
      match length? bs with
      | some (n, rest) => if rest.length < n then none else some (rest.take n, rest.drop n)
      | none => none

theorem length?_length {bs rest : List UInt8} {n : Nat} (h : length? bs = some (n, rest)) :
    rest.length < bs.length := by
  unfold length? at h
  split at h
  · cases h
  · split at h
    · cases h
      exact Nat.lt_succ_self _
    · split at h
      · split at h
        · cases h
          simp only [List.length_cons]
          omega
        · cases h
      · dsimp only at h
        split at h
        · cases h
          simp only [List.length_cons]
          omega
        · cases h
      · cases h

theorem element?_length {tag : UInt8} {bs value rest : List UInt8}
    (h : element? tag bs = some (value, rest)) : rest.length < bs.length := by
  unfold element? at h
  split at h
  · cases h
  · split at h
    · cases h
    · split at h
      · rename_i hn
        have := length?_length hn
        split at h
        · cases h
        · cases h
          rw [List.length_drop, List.length_cons]
          omega
      · cases h

/-- The values, all with this tag, that the bytes consist of. -/
def elements? (tag : UInt8) (bs : List UInt8) : Option (List (List UInt8)) :=
  if bs.isEmpty then some []
  else
    match h : element? tag bs with
    | some (value, rest) =>
      have := element?_length h
      (elements? tag rest).map (value :: ·)
    | none => none
termination_by bs.length

/-! ## Tags -/

/-- Tag of a truth value. -/
def flagTag : UInt8 := 0x01

/-- Tag of a whole number. -/
def integerTag : UInt8 := 0x02

/-- Tag of bits. -/
def bitsTag : UInt8 := 0x03

/-- Tag of bytes. -/
def octetsTag : UInt8 := 0x04

/-- Tag of a registered name. -/
def nameTag : UInt8 := 0x06

/-- Tag of a list of elements. -/
def sequenceTag : UInt8 := 0x30

/-- Tag of the list of elements that its place gives the number `n`. -/
def placeTag (n : UInt8) : UInt8 := 0xa0 + n

/-! ## Reading one value after the other -/

/-- A reading of the first bytes of a text. -/
abbrev Reading := StateT (List UInt8) Option

/-- Reads a value with this tag. -/
def Reading.value (tag : UInt8) : Reading (List UInt8) :=
  fun bs => element? tag bs

/-- Reads a value with this tag if it stands there. -/
def Reading.value? (tag : UInt8) : Reading (Option (List UInt8)) :=
  fun bs =>
    if bs.head? = some tag then (element? tag bs).map fun (value, rest) => (some value, rest)
    else some (none, bs)

/-- Reads so many lists of elements. -/
def Reading.sequences : Nat → Reading Unit
  | 0 => pure ()
  | n + 1 => do
    let _ ← value sequenceTag
    sequences n

/-- What is read, if it takes all the bytes. -/
def Reading.whole? {α : Type} (read : Reading α) (bs : List UInt8) : Option α :=
  match read.run bs with
  | some (a, []) => some a
  | _ => none

end UaaAdmin.Element
