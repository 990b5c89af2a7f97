import UaaAdmin.Json.Value

/-!
# Writing JSON

The shortest text of a value, without blanks. In a text literal only the quote, the backslash and
the control characters are escaped.
-/

namespace UaaAdmin.Json

/-- The digit of `n` in lower-case hexadecimal. -/
def hexChar (n : Nat) : Char :=
  if n < 10 then Char.ofNat (0x30 + n) else Char.ofNat (0x57 + n)

/-- Written form of one character of a text literal. -/
def escapeChar (c : Char) : List Char :=
  match c with
  | '\x22' => ['\\', '\x22']
  | '\\' => ['\\', '\\']
  | '\x08' => ['\\', 'b']
  | '\x0c' => ['\\', 'f']
  | '\n' => ['\\', 'n']
  | '\x0d' => ['\\', 'r']
  | '\t' => ['\\', 't']
  | c =>
    if c.toNat < 0x20 then ['\\', 'u', '0', '0', hexChar (c.toNat / 16), hexChar (c.toNat % 16)]
    else [c]

/-- Text literal of a text. -/
def printText (s : String) : List Char :=
  '\x22' :: (s.toList.flatMap escapeChar ++ ['\x22'])

/-- Decimal digits of an integer. -/
def printInt (n : Int) : List Char :=
  if n < 0 then '-' :: Nat.toDigits 10 n.natAbs else Nat.toDigits 10 n.natAbs

/-- A number with its power of ten. -/
def printReal (d : Decimal) : List Char :=
  (if d.negative then ['-'] else []) ++ Nat.toDigits 10 d.mantissa ++ 'e' :: printInt d.exponent

mutual

/-- The text of a value. -/
def printChars : Json → List Char
  | null => ['n', 'u', 'l', 'l']
  | bool true => ['t', 'r', 'u', 'e']
  | bool false => ['f', 'a', 'l', 's', 'e']
  | int n => printInt n
  | real d => printReal d
  | text s => printText s
  | garbled => ['\x22', '\\', 'u', 'd', '8', '0', '0', '\x22']
  | array items => '[' :: printItems items
  | object members => '\x7b' :: printMembers members

/-- The items of an array and its end. -/
def printItems : List Json → List Char
  | [] => [']']
  | [v] => printChars v ++ [']']
  | v :: vs => printChars v ++ ',' :: printItems vs

/-- The members of an object and its end. -/
def printMembers : List (String × Json) → List Char
  | [] => ['\x7d']
  | [(k, v)] => printText k ++ ':' :: (printChars v ++ ['\x7d'])
  | (k, v) :: ms => printText k ++ ':' :: (printChars v ++ ',' :: printMembers ms)

end

/-- The text of a value. -/
def print (v : Json) : String :=
  String.ofList (printChars v)

end UaaAdmin.Json
