/-!
# JSON values

A JSON value as it was read. Objects keep their members in the order of the text, repeated keys
included, because a record may not repeat a field. A value that holds a text literal which denotes
no Unicode text is well-formed and may stand where it is ignored; it is kept as `garbled`, and
nothing reads it.
-/

namespace UaaAdmin

/-- The number `± mantissa · 10 ^ exponent`. -/
structure Decimal where
  negative : Bool
  mantissa : Nat
  exponent : Int
  deriving DecidableEq, Inhabited

namespace Decimal

/-- Number of decimal digits of the mantissa. -/
def digits (d : Decimal) : Nat := (Nat.toDigits 10 d.mantissa).length

/-- The number is near enough to a double-precision one: its size is below `2 ^ 1024` after rounding
to 53 binary digits. Sizes far from that bound are decided by the number of digits alone. -/
def isFinite (d : Decimal) : Bool :=
  let magnitude := d.exponent + d.digits
  if d.mantissa == 0 || magnitude ≤ 308 then true
  else if magnitude > 310 then false
  else
    let bound := Nat.pow 2 1024 - Nat.pow 2 970
    if d.exponent ≥ 0 then decide (d.mantissa * Nat.pow 10 d.exponent.toNat < bound)
    else decide (d.mantissa < bound * Nat.pow 10 (-d.exponent).toNat)

end Decimal

/-- A JSON value. An integer literal that fits in 64 bits is an `int`, any other number a `real`. -/
inductive Json where
  | null
  | bool (b : Bool)
  | int (n : Int)
  | real (d : Decimal)
  | text (s : String)
  | garbled
  | array (items : List Json)
  | object (members : List (String × Json))
  deriving Inhabited, BEq

namespace Json

/-- The value of the first member called `key`, `null` if there is none. -/
def member (v : Json) (key : String) : Json :=
  match v with
  | object ms => (ms.lookup key).getD null
  | _ => null

/-! ## Values that stand for themselves

A program that takes any JSON value keeps it up to the order and repetition of keys. -/

/-- Deepest nesting of arrays and objects in a value that is kept. -/
def maxDepth : Nat := 127

mutual

/-- The value as it is kept, if at most `depth` containers lie around any part of it: no part is
garbled, every number is finite, and of members with one key the last counts. -/
def keep? (depth : Nat) : Json → Option Json
  | null => some null
  | bool b => some (bool b)
  | int n => some (int n)
  | real d => if d.isFinite then some (real d) else none
  | text s => some (text s)
  | garbled => none
  | array items =>
    if depth = 0 then none else (keepItems? (depth - 1) items).map array
  | object members =>
    if depth = 0 then none else (keepMembers? (depth - 1) members).map object

/-- The items of an array as they are kept. -/
def keepItems? (depth : Nat) : List Json → Option (List Json)
  | [] => some []
  | v :: vs => do
    let w ← keep? depth v
    let ws ← keepItems? depth vs
    some (w :: ws)

/-- The members of an object as they are kept. -/
def keepMembers? (depth : Nat) : List (String × Json) → Option (List (String × Json))
  | [] => some []
  | (k, v) :: ms => do
    let w ← keep? depth v
    let rest ← keepMembers? depth ms
    if rest.any (·.1 == k) then some rest else some ((k, w) :: rest)

end

end Json

end UaaAdmin
