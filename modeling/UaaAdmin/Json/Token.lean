import UaaAdmin.Json.Value

/-!
# JSON tokens

Cuts a text into tokens: the marks of JSON, and the values that have no parts. The characters come
as `Option Char`, where `none` is a stretch of bytes that is no character; such a stretch may stand
inside a text literal, which is then garbled.

The cut goes from left to right with the little that has to be remembered in `Scan`; nothing is
looked at twice.
-/

namespace UaaAdmin.Json

/-- A mark of JSON, or a value without parts. -/
inductive Token where
  | openArray
  | closeArray
  | openObject
  | closeObject
  | colon
  | comma
  | leaf (v : Json)

/-! ## Text literals -/

/-- Where the reader of a text literal stands: at a plain character, behind a backslash, or before
`left` more hexadecimal digits of a code unit that starts with `unit`. -/
inductive Escape where
  | plain
  | backslash
  | digits (left : Nat) (unit : Nat)

/-- The character of a two-character escape. -/
def shortEscape? (c : Char) : Option Char :=
  match c with
  | '\x22' => some '\x22'
  | '\\' => some '\\'
  | '/' => some '/'
  | 'b' => some '\x08'
  | 'f' => some '\x0c'
  | 'n' => some '\n'
  | 'r' => some '\x0d'
  | 't' => some '\t'
  | _ => none

/-- The value of a hexadecimal digit. -/
def hexDigit? (c : Char) : Option Nat :=
  if '0' ≤ c && c ≤ '9' then some (c.toNat - 0x30)
  else if 'a' ≤ c && c ≤ 'f' then some (c.toNat - 0x57)
  else if 'A' ≤ c && c ≤ 'F' then some (c.toNat - 0x37)
  else none

/-- What a first half of a surrogate pair leaves behind when no second half follows. -/
def unpaired (high : Option Nat) : List (Option Char) :=
  if high.isSome then [none] else []

/-- The characters between the quotes of a text literal, with its escapes resolved; `none` among
them is a place that denotes no character, `none` as a whole a malformed escape. `high` is the first
half of a surrogate pair that has just been read. -/
def unescape (mode : Escape) (high : Option Nat) :
    List (Option Char) → Option (List (Option Char))
  | [] =>
    match mode with
    | .plain => some (unpaired high)
    | _ => none
  | c :: cs =>
    match mode, c with
    | .plain, some '\\' => unescape .backslash high cs
    | .plain, c => (unescape .plain none cs).map (unpaired high ++ [c] ++ ·)
    | .backslash, some 'u' => unescape (.digits 4 0) high cs
    | .backslash, some c =>
      match shortEscape? c with
      | some d => (unescape .plain none cs).map (unpaired high ++ [some d] ++ ·)
      | none => none
    | .digits left unit, some c =>
      match hexDigit? c with
      | none => none
      | some d =>
        let unit := unit * 16 + d
        if left > 1 then unescape (.digits (left - 1) unit) high cs
        else if 0xd800 ≤ unit && unit < 0xdc00 then
          (unescape .plain (some unit) cs).map (unpaired high ++ ·)
        else if 0xdc00 ≤ unit && unit < 0xe000 then
          -- A second half joins only the first half right in front of it.
          match high with
          | some h =>
            let code := 0x10000 + (h - 0xd800) * 0x400 + (unit - 0xdc00)
            (unescape .plain none cs).map (some (Char.ofNat code) :: ·)
          | none => (unescape .plain none cs).map (none :: ·)
        else (unescape .plain none cs).map (unpaired high ++ [some (Char.ofNat unit)] ++ ·)
    | _, none => none

/-- The text of characters that are all there. -/
def allChars? : List (Option Char) → Option (List Char)
  | [] => some []
  | some c :: cs => (allChars? cs).map (c :: ·)
  | none :: _ => none

/-- The value of the text literal with these characters between its quotes. -/
def textLiteral? (raw : List (Option Char)) : Option Json :=
  (unescape .plain none raw).map fun cs =>
    match allChars? cs with
    | some cs => text (String.ofList cs)
    | none => garbled

/-! ## Numbers and words -/

/-- The number with these decimal digits. -/
def ofDigits (ds : List Char) : Nat :=
  ds.foldl (fun n c => n * 10 + (c.toNat - 0x30)) 0

/-- An integer literal: kept exactly if it fits in 64 bits, signed or unsigned. Minus zero is a
real, because it is not the integer zero. -/
def integer (negative : Bool) (n : Nat) : Json :=
  if negative then
    if n = 0 || n > Nat.pow 2 63 then real ⟨true, n, 0⟩ else int (-(n : Int))
  else if n < Nat.pow 2 64 then int n
  else real ⟨false, n, 0⟩

/-- Splits the leading digits off. -/
def spanDigits (cs : List Char) : List Char × List Char :=
  (cs.takeWhile Char.isDigit, cs.dropWhile Char.isDigit)

/-- The exponent part of a number, which may be missing. -/
def exponent? : List Char → Option (Option Int)
  | [] => some none
  | e :: cs =>
    if e = 'e' || e = 'E' then
      let (negative, ds) := match cs with
        | '-' :: ds => (true, ds)
        | '+' :: ds => (false, ds)
        | ds => (false, ds)
      if ds.isEmpty || !ds.all Char.isDigit then none
      else some (some (if negative then -(ofDigits ds : Int) else ofDigits ds))
    else none

/-- The fraction digits of a number, which may be missing, and what follows them. -/
def fraction? : List Char → Option (List Char × List Char)
  | '.' :: cs =>
    let (ds, rest) := spanDigits cs
    if ds.isEmpty then none else some (ds, rest)
  | cs => some ([], cs)

/-- A number literal without its sign. -/
def unsignedNumber? (negative : Bool) (cs : List Char) : Option Json := do
  let (whole, afterWhole) := spanDigits cs
  if whole.isEmpty || (whole.head? == some '0' && whole.length > 1) then none
  else
    let (part, afterPart) ← fraction? afterWhole
    let exponent ← exponent? afterPart
    if part.isEmpty && exponent.isNone then some (integer negative (ofDigits whole))
    else some (real ⟨negative, ofDigits (whole ++ part), exponent.getD 0 - part.length⟩)

/-- The value of a run of word characters: one of three names, or a number. -/
def word? (cs : List Char) : Option Json :=
  if cs = ['n', 'u', 'l', 'l'] then some null
  else if cs = ['t', 'r', 'u', 'e'] then some (bool true)
  else if cs = ['f', 'a', 'l', 's', 'e'] then some (bool false)
  else match cs with
    | '-' :: cs => unsignedNumber? true cs
    | cs => unsignedNumber? false cs

/-! ## The cut -/

/-- The characters between tokens. -/
def isSpace (c : Char) : Bool :=
  c == ' ' || c == '\t' || c == '\n' || c == '\x0d'

/-- The characters of names and numbers. -/
def isWordChar (c : Char) : Bool :=
  ('a' ≤ c && c ≤ 'z') || ('A' ≤ c && c ≤ 'Z') || ('0' ≤ c && c ≤ '9')
    || c == '-' || c == '+' || c == '.'

/-- What has been read of the token under way, latest character first. -/
inductive Scan where
  | between
  | inWord (read : List Char)
  | inText (read : List (Option Char)) (escaped : Bool)

/-- The tokens that a character between tokens gives, and what is under way after it. -/
def scanFresh (c : Char) : Option (List Token × Scan) :=
  if isSpace c then some ([], .between)
  else if isWordChar c then some ([], .inWord [c])
  else match c with
    | '[' => some ([.openArray], .between)
    | ']' => some ([.closeArray], .between)
    | '\x7b' => some ([.openObject], .between)
    | '\x7d' => some ([.closeObject], .between)
    | ':' => some ([.colon], .between)
    | ',' => some ([.comma], .between)
    | '\x22' => some ([], .inText [] false)
    | _ => none

/-- The tokens that the next character completes, and what is under way after it. -/
def scanStep (st : Scan) (c : Option Char) : Option (List Token × Scan) :=
  match st, c with
  | .between, some c => scanFresh c
  | .inWord read, some c =>
    if isWordChar c then some ([], .inWord (c :: read))
    else do
      let v ← word? read.reverse
      -- The character that ends a word can be a token of its own.
      let (tokens, next) ← scanFresh c
      some (.leaf v :: tokens, next)
  | .inText read escaped, c =>
    match c with
    | some '\x22' =>
      if escaped then some ([], .inText (c :: read) false)
      else (textLiteral? read.reverse).map fun v => ([.leaf v], .between)
    | some '\\' => some ([], .inText (c :: read) (!escaped))
    | some d => if d.toNat < 0x20 then none else some ([], .inText (c :: read) false)
    | none => some ([], .inText (c :: read) false)
  | _, none => none

/-- The tokens of the rest of a text. -/
def scanFrom (st : Scan) : List (Option Char) → Option (List Token)
  | [] =>
    match st with
    | .between => some []
    | .inWord read => (word? read.reverse).map fun v => [.leaf v]
    | .inText _ _ => none
  | c :: cs => do
    let (tokens, next) ← scanStep st c
    let more ← scanFrom next cs
    some (tokens ++ more)

/-- The tokens of a text. -/
def scan (cs : List (Option Char)) : Option (List Token) :=
  scanFrom .between cs

end UaaAdmin.Json
