/-!
# Base64

The text form of bytes with 64 letters: three bytes become four letters, and a rest of one or two
bytes is filled up with `=`. `decode?_encodeChars` says that reading what was written gives the
bytes back, and `length_encodeChars` how long it is.
-/

namespace UaaAdmin.Text.Base64

/-- The letters, by their value. -/
def alphabet : List Char :=
  "ABCDEFGHIJKLMNOPQRSTUVWXYZabcdefghijklmnopqrstuvwxyz0123456789+/".toList

/-- The letter of value `n`, for `n` below 64. -/
def letter (n : Nat) : Char :=
  alphabet.getD n 'A'

/-- The bits of the bytes, six by six. -/
def valuesOf : List UInt8 → List Nat
  | [] => []
  | [a] =>
    let n := a.toNat * 16
    [n / 64, n % 64]
  | [a, b] =>
    let n := (a.toNat * 256 + b.toNat) * 4
    [n / 4096, n / 64 % 64, n % 64]
  | a :: b :: c :: rest =>
    let n := (a.toNat * 256 + b.toNat) * 256 + c.toNat
    n / 262144 :: n / 4096 % 64 :: n / 64 % 64 :: n % 64 :: valuesOf rest

/-- How many `=` fill up the form of so many bytes. -/
def padCount (bytes : Nat) : Nat := (3 - bytes % 3) % 3

/-- Written form of the bytes. -/
def encodeChars (bytes : List UInt8) : List Char :=
  (valuesOf bytes).map letter ++ List.replicate (padCount bytes.length) '='

/-- Written form of the bytes, as a text. -/
def encode (bytes : List UInt8) : String :=
  String.ofList (encodeChars bytes)

theorem length_valuesOf (bytes : List UInt8) :
    (valuesOf bytes).length + padCount bytes.length = (bytes.length + 2) / 3 * 4 := by
  unfold padCount
  fun_induction valuesOf bytes with
  | case1 => rfl
  | case2 => simp
  | case3 => simp
  | case4 a b c rest n ih =>
    simp only [List.length_cons] at ih ⊢
    omega

theorem length_encodeChars (bytes : List UInt8) :
    (encodeChars bytes).length = (bytes.length + 2) / 3 * 4 := by
  rw [encodeChars, List.length_append, List.length_map, List.length_replicate, length_valuesOf]

/-! ## Reading -/

/-- The value of a letter. -/
def value? (c : Char) : Option Nat :=
  alphabet.findIdx? (· == c)

/-- The character may stand between letters. -/
def isFiller (c : Char) : Bool :=
  c == ' ' || ('\t' ≤ c && c ≤ '\x0d')

/-- The bytes that letters of these values stand for. Bits that are left over do not count. -/
def bytesOf : List Nat → List UInt8
  | a :: b :: c :: d :: rest =>
    let n := ((a * 64 + b) * 64 + c) * 64 + d
    UInt8.ofNat (n / 65536) :: UInt8.ofNat (n / 256) :: UInt8.ofNat n :: bytesOf rest
  | [a, b, c] =>
    let n := (a * 64 + b) * 64 + c
    [UInt8.ofNat (n / 1024), UInt8.ofNat (n / 4)]
  | [a, b] => [UInt8.ofNat ((a * 64 + b) / 16)]
  | _ => []

/-- So many letters can stand in front of so many `=`, which may be left out altogether. A single
letter over is not a byte. -/
def isFilled (letters pads : Nat) : Bool :=
  letters % 4 ≠ 1 && (pads = 0 || (letters + pads) % 4 = 0 && pads < 3)

/-- The bytes of a written form. -/
def decode? (cs : List Char) : Option (List UInt8) :=
  let cs := cs.filter (!isFiller ·)
  let letters := cs.takeWhile (· ≠ '=')
  let pads := cs.dropWhile (· ≠ '=')
  if pads.all (· == '=') && isFilled letters.length pads.length then
    (letters.mapM value?).map bytesOf
  else none

/-! ## Reading what was written -/

theorem letter_spec : ∀ n : Fin 64,
    value? (letter n) = some n.val ∧ isFiller (letter n) = false ∧ letter n ≠ '=' := by
  decide

theorem valuesOf_lt (bytes : List UInt8) : ∀ n ∈ valuesOf bytes, n < 64 := by
  fun_induction valuesOf bytes with
  | case1 => simp
  | case2 a n =>
    have := a.toNat_lt
    simp only [List.mem_cons, List.not_mem_nil, or_false]
    omega
  | case3 a b n =>
    have := a.toNat_lt
    have := b.toNat_lt
    simp only [List.mem_cons, List.not_mem_nil, or_false]
    omega
  | case4 a b c rest n ih =>
    have := a.toNat_lt
    have := b.toNat_lt
    have := c.toNat_lt
    intro m hm
    simp only [List.mem_cons] at hm
    rcases hm with h | h | h | h | h
    · omega
    · omega
    · omega
    · omega
    · exact ih m h

theorem ofNat_eq {a : UInt8} {n : Nat} (h : n % 256 = a.toNat) : UInt8.ofNat n = a := by
  rw [← UInt8.toNat_inj, UInt8.toNat_ofNat']
  exact h

theorem bytesOf_valuesOf (bytes : List UInt8) : bytesOf (valuesOf bytes) = bytes := by
  fun_induction valuesOf bytes with
  | case1 => rfl
  | case2 a n =>
    have := a.toNat_lt
    simp only [bytesOf, List.cons.injEq, and_true]
    exact ofNat_eq (by omega)
  | case3 a b n =>
    have := a.toNat_lt
    have := b.toNat_lt
    simp only [bytesOf, List.cons.injEq, and_true]
    exact ⟨ofNat_eq (by omega), ofNat_eq (by omega)⟩
  | case4 a b c rest n ih =>
    have := a.toNat_lt
    have := b.toNat_lt
    have := c.toNat_lt
    simp only [bytesOf, ih, List.cons.injEq, and_true]
    exact ⟨ofNat_eq (by omega), ofNat_eq (by omega), ofNat_eq (by omega)⟩

/-- Reading what was written gives the bytes back. -/
theorem decode?_encodeChars (bytes : List UInt8) : decode? (encodeChars bytes) = some bytes := by
  have hspec : ∀ n ∈ valuesOf bytes,
      value? (letter n) = some n ∧ isFiller (letter n) = false ∧ letter n ≠ '=' :=
    fun n hn => letter_spec ⟨n, valuesOf_lt bytes n hn⟩
  have hfilter : (encodeChars bytes).filter (!isFiller ·) = encodeChars bytes := by
    rw [List.filter_eq_self]
    intro c hc
    rcases List.mem_append.mp hc with h | h
    · obtain ⟨n, hn, rfl⟩ := List.mem_map.mp h
      simp [(hspec n hn).2.1]
    · rw [List.eq_of_mem_replicate h]
      rfl
  have hall : ∀ c ∈ (valuesOf bytes).map letter, (decide (c ≠ '=')) = true := by
    intro c hc
    obtain ⟨n, hn, rfl⟩ := List.mem_map.mp hc
    simp [(hspec n hn).2.2]
  have htake : (encodeChars bytes).takeWhile (· ≠ '=') = (valuesOf bytes).map letter := by
    rw [encodeChars, List.takeWhile_append_of_pos hall]
    cases padCount bytes.length <;> simp [List.replicate_succ]
  have hdrop : (encodeChars bytes).dropWhile (· ≠ '=')
      = List.replicate (padCount bytes.length) '=' := by
    rw [encodeChars, List.dropWhile_append_of_pos hall]
    cases padCount bytes.length <;> simp [List.replicate_succ]
  have hvalues : ∀ ns : List Nat, (∀ n ∈ ns, value? (letter n) = some n) →
      (ns.map letter).mapM value? = some ns := by
    intro ns
    induction ns with
    | nil => intro _; rfl
    | cons n ns ih =>
      intro h
      simp [h n List.mem_cons_self, ih fun m hm => h m (List.mem_cons_of_mem n hm)]
  have hfilled : isFilled (valuesOf bytes).length (padCount bytes.length) = true := by
    have := length_valuesOf bytes
    have : padCount bytes.length < 3 := Nat.mod_lt _ (by decide)
    have : (valuesOf bytes).length % 4 ≠ 1 := by omega
    have : ((valuesOf bytes).length + padCount bytes.length) % 4 = 0 := by omega
    simp [isFilled, *]
  have hpads : (List.replicate (padCount bytes.length) '=').all (· == '=') = true := by
    simp
  simp only [decode?, hfilter, htake, hdrop, hpads, List.length_map, List.length_replicate,
    hfilled, Bool.and_self, if_pos, hvalues _ fun n hn => (hspec n hn).1, Option.map_some,
    bytesOf_valuesOf]

end UaaAdmin.Text.Base64
