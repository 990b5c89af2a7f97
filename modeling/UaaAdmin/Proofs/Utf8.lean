import UaaAdmin.Text.Utf8

/-!
# Decoding what was encoded

The bytes of a character start in a way that says how many follow, and in which range the next one
lies (`start_two`, `start_three`, `start_four`); the bytes that follow complete the character. So
decoding gives back the text that was encoded: `Text.Utf8.decode_encode`.
-/

namespace UaaAdmin.Text.Utf8

theorem start_one {n : Nat} (h : n < 0x80) : advance none n = ([some (Char.ofNat n)], none) := by
  unfold advance start
  rw [if_pos h]

theorem start_two {n : Nat} (hlow : 0x80 ≤ n) (hhigh : n < 0x800) :
    advance none (n / 64 + 0xc0) = ([], some ⟨1, 0x80, 0xbf, n / 64⟩) := by
  have hone : ¬n / 64 + 0xc0 < 0x80 := by omega
  have htwo : 0xc2 ≤ n / 64 + 0xc0 ∧ n / 64 + 0xc0 ≤ 0xdf := by omega
  simp [advance, start, hone, htwo]

/-- The second of three bytes is limited at both ends: below, because a shorter form would do;
above, because of the surrogates. -/
theorem start_three {n : Nat} (hlow : 0x800 ≤ n) (hhigh : n < 0x10000)
    (hvalid : n < 0xd800 ∨ 0xdfff < n) :
    ∃ low high, advance none (n / 4096 + 0xe0) = ([], some ⟨2, low, high, n / 4096⟩) ∧
      low ≤ n / 64 % 64 + 0x80 ∧ n / 64 % 64 + 0x80 ≤ high := by
  by_cases hfirst : n < 0x1000
  · -- Below `0xa0` two bytes would have done.
    have hzero : n / 4096 = 0 := by omega
    refine ⟨0xa0, 0xbf, ?_, by omega, by omega⟩
    rw [hzero]
    rfl
  · by_cases hsurrogate : 0xd000 ≤ n ∧ n < 0xe000
    · -- From `0xa0` on the surrogates would follow.
      have hthirteen : n / 4096 = 13 := by omega
      refine ⟨0x80, 0x9f, ?_, by omega, by omega⟩
      rw [hthirteen]
      rfl
    · have hone : ¬n / 4096 + 0xe0 < 0x80 := by omega
      have hzero : n / 4096 ≠ 0 := by omega
      have hthirteen : n / 4096 ≠ 13 := by omega
      have hrange : 0xe1 ≤ n / 4096 + 0xe0 ∧ n / 4096 + 0xe0 ≤ 0xef := by omega
      refine ⟨0x80, 0xbf, ?_, by omega, by omega⟩
      simp [advance, start, hone, hzero, hthirteen, hrange]

/-- The second of four bytes is limited at both ends: below, because a shorter form would do; above,
because no character has a larger code. -/
theorem start_four {n : Nat} (hlow : 0x10000 ≤ n) (hhigh : n < 0x110000) :
    ∃ low high, advance none (n / 262144 + 0xf0) = ([], some ⟨3, low, high, n / 262144⟩) ∧
      low ≤ n / 4096 % 64 + 0x80 ∧ n / 4096 % 64 + 0x80 ≤ high := by
  by_cases hfirst : n < 0x40000
  · have hzero : n / 262144 = 0 := by omega
    refine ⟨0x90, 0xbf, ?_, by omega, by omega⟩
    rw [hzero]
    rfl
  · by_cases hlast : 0x100000 ≤ n
    · have hfour : n / 262144 = 4 := by omega
      refine ⟨0x80, 0x8f, ?_, by omega, by omega⟩
      rw [hfour]
      rfl
    · have hcases : n / 262144 = 1 ∨ n / 262144 = 2 ∨ n / 262144 = 3 := by omega
      refine ⟨0x80, 0xbf, ?_, by omega, by omega⟩
      rcases hcases with h | h | h <;> rw [h] <;> rfl

/-- A byte that follows and is not the last one. -/
theorem advance_next {missing low high bits b : Nat} (hlow : low ≤ b) (hhigh : b ≤ high)
    (hmissing : 1 < missing) :
    advance (some ⟨missing, low, high, bits⟩) b
      = ([], some ⟨missing - 1, 0x80, 0xbf, bits * 64 + b % 64⟩) := by
  have hmore : ¬missing ≤ 1 := by omega
  simp [advance, hlow, hhigh, hmore]

/-- The last byte of a character. -/
theorem advance_last {low high bits b : Nat} (hlow : low ≤ b) (hhigh : b ≤ high) :
    advance (some ⟨1, low, high, bits⟩) b = ([some (Char.ofNat (bits * 64 + b % 64))], none) := by
  simp [advance, hlow, hhigh]

theorem decodeFrom_ofNat {pending next : Option Pending} {n : Nat} {cs : List (Option Char)}
    (h : n < 256) (hstep : advance pending n = (cs, next)) (bs : List UInt8) :
    decodeFrom pending (UInt8.ofNat n :: bs) = cs ++ decodeFrom next bs := by
  have hn : (UInt8.ofNat n).toNat = n := by
    rw [UInt8.toNat_ofNat']
    omega
  rw [decodeFrom, hn, hstep]

/-- The bytes of a character decode to it. -/
theorem decodeFrom_utf8EncodeChar (c : Char) (bs : List UInt8) :
    decodeFrom none (String.utf8EncodeChar c ++ bs) = some c :: decodeFrom none bs := by
  have hvalid : c.toNat < 0xd800 ∨ 0xdfff < c.toNat ∧ c.toNat < 0x110000 := c.valid
  have hc : Char.ofNat c.toNat = c := Char.ofNat_toNat c
  unfold String.utf8EncodeChar
  dsimp only
  rw [show c.val.toNat = c.toNat from rfl]
  -- From here on the character is its code. The first byte is cut to the bits that it has room for,
  -- which is all that there is in its range.
  generalize c.toNat = n at *
  split
  · rename_i hone
    rw [List.singleton_append, decodeFrom_ofNat (by omega) (start_one (by omega)), hc]
    rfl
  split
  · rename_i hone htwo
    have hhead : n / 64 % 32 = n / 64 := by omega
    have hbits : n / 64 * 64 + (n % 64 + 0x80) % 64 = n := by omega
    rw [hhead, List.cons_append, List.singleton_append,
      decodeFrom_ofNat (by omega) (start_two (by omega) (by omega)),
      decodeFrom_ofNat (by omega) (advance_last (by omega) (by omega)), hbits, hc]
    rfl
  split
  · rename_i hone htwo hthree
    have hhead : n / 4096 % 16 = n / 4096 := by omega
    have hbits : (n / 4096 * 64 + (n / 64 % 64 + 0x80) % 64) * 64 + (n % 64 + 0x80) % 64 = n := by
      omega
    obtain ⟨low, high, hstart, hlow, hhigh⟩ :=
      start_three (n := n) (by omega) (by omega) (by omega)
    rw [hhead, List.cons_append, List.cons_append, List.singleton_append,
      decodeFrom_ofNat (by omega) hstart,
      decodeFrom_ofNat (by omega) (advance_next hlow hhigh (by decide)),
      decodeFrom_ofNat (by omega) (advance_last (by omega) (by omega)), hbits, hc]
    rfl
  · rename_i hone htwo hthree
    have hhead : n / 262144 % 8 = n / 262144 := by omega
    have hbits : ((n / 262144 * 64 + (n / 4096 % 64 + 0x80) % 64) * 64
        + (n / 64 % 64 + 0x80) % 64) * 64 + (n % 64 + 0x80) % 64 = n := by omega
    obtain ⟨low, high, hstart, hlow, hhigh⟩ := start_four (n := n) (by omega) (by omega)
    rw [hhead, List.cons_append, List.cons_append, List.cons_append, List.singleton_append,
      decodeFrom_ofNat (by omega) hstart,
      decodeFrom_ofNat (by omega) (advance_next hlow hhigh (by decide)),
      decodeFrom_ofNat (by omega) (advance_next (by omega) (by omega) (by decide)),
      decodeFrom_ofNat (by omega) (advance_last (by omega) (by omega)), hbits, hc]
    rfl

/-- Decoding undoes encoding. -/
theorem decode_encode (s : String) : decode (encode s) = s.toList.map some := by
  unfold decode encode
  induction s.toList with
  | nil => rfl
  | cons c cs ih => rw [List.flatMap_cons, decodeFrom_utf8EncodeChar, ih, List.map_cons]

end UaaAdmin.Text.Utf8
