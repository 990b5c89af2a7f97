import UaaAdmin.Text.Utf8

/-!
# Percent encoding

A byte that may not stand in an address is written as `%` and two capital hexadecimal digits.
Main statement: `decode_encodeBytes`, reading what was written gives the bytes back, as long as `%`
itself is among the bytes that are encoded.
-/

namespace UaaAdmin.Text.Percent

/-- The capital hexadecimal digit of `n`. -/
def digit (n : Nat) : Char :=
  if n < 10 then Char.ofNat (0x30 + n) else Char.ofNat (0x37 + n)

/-- The value of a hexadecimal digit of either case. -/
def digit? (c : Char) : Option Nat :=
  if '0' ≤ c && c ≤ '9' then some (c.toNat - 0x30)
  else if 'A' ≤ c && c ≤ 'F' then some (c.toNat - 0x37)
  else if 'a' ≤ c && c ≤ 'f' then some (c.toNat - 0x57)
  else none

/-- Written form of one byte: the character itself if `keep` allows it. -/
def encodeByte (keep : Char → Bool) (b : UInt8) : List Char :=
  if b.toNat < 0x80 && keep (Char.ofNat b.toNat) then [Char.ofNat b.toNat]
  else ['%', digit (b.toNat / 16), digit (b.toNat % 16)]

/-- Written form of bytes. -/
def encodeBytes (keep : Char → Bool) (bs : List UInt8) : List Char :=
  bs.flatMap (encodeByte keep)

/-- Written form of one character: its bytes, unless it is kept. -/
def encodeChar (keep : Char → Bool) (c : Char) : List Char :=
  encodeBytes keep (String.utf8EncodeChar c)

/-- Written form of a text. -/
def encodeChars (keep : Char → Bool) (cs : List Char) : List Char :=
  cs.flatMap (encodeChar keep)

/-- The value of the two hexadecimal digits in front. -/
def pair? : List Char → Option Nat
  | a :: b :: _ => do return (← digit? a) * 16 + (← digit? b)
  | _ => none

/-- The bytes of the characters that follow the first `skip` ones. -/
def decodeAfter : Nat → List Char → List UInt8
  | _, [] => []
  | skip + 1, _ :: cs => decodeAfter skip cs
  | 0, c :: cs =>
    match if c = '%' then pair? cs else none with
    | some n => UInt8.ofNat n :: decodeAfter 2 cs
    | none => String.utf8EncodeChar c ++ decodeAfter 0 cs

/-- Reads an encoded text: `%` with two hexadecimal digits is one byte, and every other character
stands for its own bytes. -/
def decode (cs : List Char) : List UInt8 :=
  decodeAfter 0 cs

/-! ## Reading what was written -/

theorem digit_spec : ∀ n : Fin 16, digit? (digit n.1) = some n.1 := by decide

theorem pair?_digits (b : UInt8) (cs : List Char) :
    pair? (digit (b.toNat / 16) :: digit (b.toNat % 16) :: cs) = some b.toNat := by
  have hb := b.toNat_lt
  have h1 := digit_spec ⟨b.toNat / 16, by omega⟩
  have h2 := digit_spec ⟨b.toNat % 16, by omega⟩
  simp only at h1 h2
  simp only [pair?, h1, h2, Option.pure_def, Option.bind_eq_bind, Option.bind_some,
    Option.some.injEq]
  omega

theorem utf8EncodeChar_ofNat {b : UInt8} (h : b.toNat < 0x80) :
    String.utf8EncodeChar (Char.ofNat b.toNat) = [b] := by
  have hv : (Char.ofNat b.toNat).val.toNat = b.toNat := by
    have : b.toNat.isValidChar := Or.inl (by omega)
    rw [Char.ofNat, dif_pos this]
    rfl
  unfold String.utf8EncodeChar
  simp only [hv, show b.toNat ≤ 0x7f by omega, if_pos]
  simp

/-- Reading what was written gives the bytes back, if `%` itself is never kept. -/
theorem decode_encodeBytes {keep : Char → Bool} (hk : keep '%' = false) (bs : List UInt8)
    (rest : List Char) : decode (encodeBytes keep bs ++ rest) = bs ++ decode rest := by
  induction bs with
  | nil => rfl
  | cons b bs ih =>
    simp only [encodeBytes, List.flatMap_cons, List.append_assoc] at ih ⊢
    by_cases h : (b.toNat < 0x80 && keep (Char.ofNat b.toNat)) = true
    · have hne : Char.ofNat b.toNat ≠ '%' := fun he => by
        rw [he, hk] at h
        simp at h
      rw [Bool.and_eq_true, decide_eq_true_eq] at h
      simp only [encodeByte, h.1, h.2, decide_true, Bool.and_self, if_pos, List.cons_append,
        List.nil_append]
      simp only [decode, decodeAfter, hne, if_false, utf8EncodeChar_ofNat h.1, List.cons_append,
        List.nil_append] at ih ⊢
      rw [ih]
    · simp only [encodeByte, h, Bool.false_eq_true, if_false, List.cons_append, List.nil_append]
      simp only [decode, decodeAfter, if_true, pair?_digits] at ih ⊢
      rw [ih]
      simp

/-! ## Parts of an address -/

/-- The characters that stand for themselves in every part of an address. -/
def isUnreserved (c : Char) : Bool :=
  ('a' ≤ c && c ≤ 'z') || ('A' ≤ c && c ≤ 'Z') || ('0' ≤ c && c ≤ '9')
    || c == '-' || c == '_' || c == '.' || c == '~'

/-- The text as a part of an address in which no character has a meaning of its own. -/
def component (s : String) : String :=
  String.ofList (encodeChars isUnreserved s.toList)

end UaaAdmin.Text.Percent
