/-!
# Punycode

The form of a label of a domain name in which every character is plain: the plain characters first,
then the places and values of the others as numbers with digits `a` to `z` and `0` to `9`.
-/

namespace UaaAdmin.Url.Punycode

/-- The digit of value `d`, for `d` below 36. -/
def digit (d : Nat) : Char :=
  if d < 26 then Char.ofNat (0x61 + d) else Char.ofNat (0x16 + d)

/-- The value of a digit. -/
def digit? (c : Char) : Option Nat :=
  if 'a' ≤ c && c ≤ 'z' then some (c.toNat - 0x61)
  else if 'A' ≤ c && c ≤ 'Z' then some (c.toNat - 0x41)
  else if '0' ≤ c && c ≤ '9' then some (c.toNat - 0x16)
  else none

/-- How far the digit at weight `k` reaches before it ends a number. -/
def threshold (k bias : Nat) : Nat :=
  if k ≤ bias then 1 else if k ≥ bias + 26 then 26 else k - bias

/-- Divides `delta` by 35 until it is small, and counts 36 for each time. -/
def damp : Nat → Nat → Nat → Nat × Nat
  | 0, delta, k => (delta, k)
  | fuel + 1, delta, k => if delta > 455 then damp fuel (delta / 35) (k + 36) else (delta, k)

/-- The bias after a number `delta` at a label of `count` characters. -/
def adapt (delta count : Nat) (first : Bool) : Nat :=
  let delta := if first then delta / 700 else delta / 2
  let delta := delta + delta / count
  let (delta, k) := damp delta delta 0
  k + 36 * delta / (delta + 38)

/-- The digits of the number `q`, from weight `k` on. -/
def digitsFrom (bias : Nat) : Nat → Nat → Nat → List Char
  | 0, q, _ => [digit q]
  | fuel + 1, q, k =>
    let t := threshold k bias
    if q < t then [digit q]
    else digit (t + (q - t) % (36 - t)) :: digitsFrom bias fuel ((q - t) / (36 - t)) (k + 36)

/-- Where the writer stands: the characters `handled` so far, the `delta` since the last number, the
bias, and the digits written, latest first. -/
structure State where
  handled : Nat
  delta : Nat
  bias : Nat
  out : List Char

/-- Passes one character of the label when all below `n` are handled. -/
def passChar (basic n : Nat) (st : State) (c : Nat) : State :=
  if c < n then { st with delta := st.delta + 1 }
  else if c = n then
    { handled := st.handled + 1
      delta := 0
      bias := adapt st.delta (st.handled + 1) (st.handled == basic)
      out := (digitsFrom st.bias (st.delta + 1) st.delta 36).reverse ++ st.out }
  else st

/-- Handles all places of the code point `n`, where `last` is the one handled before it. -/
def passCode (basic : Nat) (codes : List Nat) (acc : State × Nat) (n : Nat) : State × Nat :=
  let (st, last) := acc
  let st := { st with delta := st.delta + (n - last) * (st.handled + 1) }
  let st := codes.foldl (passChar basic n) st
  ({ st with delta := st.delta + 1 }, n + 1)

/-- Plain form of a label. -/
def encode (label : List Char) : List Char :=
  let codes := label.map Char.toNat
  let plain := label.filter fun c => c.toNat < 0x80
  let others := ((codes.filter (0x80 ≤ ·)).mergeSort (· ≤ ·)).eraseDups
  let start := ⟨plain.length, 0, 72, []⟩
  let (st, _) := others.foldl (passCode plain.length codes) (start, 0x80)
  plain ++ (if plain.isEmpty then [] else ['-']) ++ st.out.reverse

/-! ## Reading -/

/-- What has been read: the characters so far, the place `i` where the next one goes, the code point
`n` it has, the bias, and the number under way with its weight. -/
structure Reader where
  chars : List Char
  i : Nat
  n : Nat
  bias : Nat
  start : Nat
  weight : Nat
  k : Nat

/-- The largest number that is read. -/
def maxNumber : Nat := 0xffffffff

/-- Takes one digit; `none` if it is none, the number gives no character, or it grows too large. -/
def readDigit (r : Reader) (c : Char) : Option Reader := do
  let d ← digit? c
  let i := r.i + d * r.weight
  let t := threshold r.k r.bias
  if i > maxNumber then none
  else if d ≥ t then
    let weight := r.weight * (36 - t)
    if weight > maxNumber then none
    else some { r with i := i, weight := weight, k := r.k + 36 }
  else
    let count := r.chars.length + 1
    let n := r.n + i / count
    let place := i % count
    if h : n.isValidChar then
      some
        { chars := r.chars.take place ++ [Char.ofNatAux n h] ++ r.chars.drop place
          i := place + 1
          n := n
          bias := adapt (i - r.start) count (r.start == 0)
          start := place + 1
          weight := 1
          k := 36 }
    else none

/-- The plain characters of a form and the digits behind them. A hyphen parts them, unless it comes
first. -/
def cutForm (form : List Char) : List Char × List Char :=
  let digits := (form.reverse.takeWhile (· ≠ '-')).reverse
  if digits.length + 1 < form.length then
    (form.take (form.length - digits.length - 1), digits)
  else ([], form)

/-- The label of a plain form; `none` if it is none. -/
def decode? (form : List Char) : Option (List Char) :=
  let (plain, digits) := cutForm form
  match digits.foldlM readDigit ⟨plain, 0, 0x80, 72, 0, 1, 36⟩ with
  | some r => if r.k = 36 then some r.chars else none
  | none => none

end UaaAdmin.Url.Punycode
