import UaaAdmin.Text.Percent
import UaaAdmin.Url.Domain

/-!
# Hosts

The host of an address: a domain name, or a network address of version 4 or 6. A domain is kept in
its plain form, and one that ends in a number is read as a version 4 address.
-/

namespace UaaAdmin.Url

/-- Why a text is no address. -/
inductive Fault where
  | noScheme
  | emptyHost
  | badDomain
  | badPort
  | badIpv4
  | badIpv6
  | badHostCharacter
  deriving DecidableEq

/-- The wording of a fault. -/
def Fault.text : Fault → String
  | noScheme => "relative URL without a base"
  | emptyHost => "empty host"
  | badDomain => "invalid international domain name"
  | badPort => "invalid port number"
  | badIpv4 => "invalid IPv4 address"
  | badIpv6 => "invalid IPv6 address"
  | badHostCharacter => "invalid domain character"

/-- The host of an address. An empty name stands for none. -/
inductive Host where
  | name (text : String)
  | ipv4 (address : Nat)
  | ipv6 (pieces : List Nat)
  deriving DecidableEq

/-! ## Addresses of version 4 -/

/-- The digit value of a character in the given base, which is 8, 10 or 16. -/
def digitIn? (base : Nat) (c : Char) : Option Nat :=
  (Text.Percent.digit? c).bind fun d => if d < base then some d else none

/-- The number with the given digits; `none` if there is a character that is no digit. -/
def numberIn? (base : Nat) (cs : List Char) : Option Nat :=
  cs.foldlM (fun n c => (digitIn? base c).map (n * base + ·)) 0

/-- A part of a version 4 address: hexadecimal behind `0x`, octal behind `0`, else decimal. -/
def ipv4Part? (cs : List Char) : Option Nat :=
  match cs with
  | [] => none
  | '0' :: 'x' :: ds => numberIn? 16 ds
  | '0' :: 'X' :: ds => numberIn? 16 ds
  | '0' :: d :: ds => numberIn? 8 (d :: ds)
  | ds => numberIn? 10 ds

/-- The parts between the dots, without an empty one at the end. -/
def dottedParts (cs : List Char) : List (List Char) :=
  let parts := cs.splitOn '.'
  if parts.getLast? = some [] && parts.length > 1 then parts.dropLast else parts

/-- The last part of the name is a number, so that the name has to be a version 4 address. -/
def endsInNumber (cs : List Char) : Bool :=
  match (dottedParts cs).getLast? with
  | some part => (!part.isEmpty && part.all Char.isDigit) || (ipv4Part? part).isSome
  | none => false

/-- The address with the given parts: every part but the last is one byte, the last fills the
rest. -/
def ipv4OfParts? (ns : List Nat) : Option Nat :=
  match ns.reverse with
  | [] => none
  | last :: bytes =>
    -- The last of four parts is one byte, of three parts two bytes, and so on.
    let room := Nat.pow 256 (4 - bytes.length)
    if ns.length > 4 || bytes.any (· > 255) || last ≥ room then none
    else some (bytes.reverse.foldl (fun acc b => acc * 256 + b) 0 * room + last)

/-- The version 4 address that a name denotes. -/
def ipv4? (cs : List Char) : Option Nat :=
  ((dottedParts cs).mapM ipv4Part?).bind ipv4OfParts?

/-- Written form of a version 4 address. -/
def printIpv4 (n : Nat) : String :=
  ".".intercalate
    [toString (n / 16777216 % 256), toString (n / 65536 % 256), toString (n / 256 % 256),
      toString (n % 256)]

/-! ## Addresses of version 6 -/

/-- A piece of a version 6 address. -/
def ipv6Piece? (cs : List Char) : Option Nat :=
  if cs.isEmpty || cs.length > 4 then none else numberIn? 16 cs

/-- A byte of a version 4 address inside a version 6 one, without leading zeros. -/
def plainByte? (cs : List Char) : Option Nat :=
  if cs.isEmpty || (cs.head? == some '0' && cs.length > 1) then none
  else (numberIn? 10 cs).bind fun n => if n ≤ 255 then some n else none

/-- The pieces of one side of a version 6 address; the last may be a version 4 address. -/
def ipv6Side? (last : Bool) (parts : List (List Char)) : Option (List Nat) :=
  match parts with
  | [] => some []
  | [part] =>
    if last && part.contains '.' then
      match (part.splitOn '.').mapM plainByte? with
      | some [a, b, c, d] => some [a * 256 + b, c * 256 + d]
      | _ => none
    else (ipv6Piece? part).map ([·])
  | part :: parts => do
    let n ← ipv6Piece? part
    let ns ← ipv6Side? last parts
    some (n :: ns)

/-- The colon-separated parts of a side, of which there are none in an empty text. -/
def colonParts (cs : List Char) : List (List Char) :=
  if cs.isEmpty then [] else cs.splitOn ':'

/-- The texts before and behind the first `::`. -/
def splitGap : List Char → Option (List Char × List Char)
  | [] => none
  | ':' :: ':' :: cs => some ([], cs)
  | c :: cs => (splitGap cs).map fun (a, b) => (c :: a, b)

/-- The eight pieces of a version 6 address. -/
def ipv6? (cs : List Char) : Option (List Nat) :=
  match splitGap cs with
  | none =>
    (ipv6Side? true (colonParts cs)).bind fun ns => if ns.length = 8 then some ns else none
  | some (before, behind) => do
    let ns ← ipv6Side? false (colonParts before)
    let ms ← ipv6Side? true (colonParts behind)
    if ns.length + ms.length < 8 then
      some (ns ++ List.replicate (8 - ns.length - ms.length) 0 ++ ms)
    else none

/-- Length of the run of zeros in front. -/
def zeroRun (ns : List Nat) : Nat := (ns.takeWhile (· == 0)).length

/-- Start and length of the first longest run of zeros, from the piece at `i` on. -/
def longestZeros : Nat → List Nat → Nat × Nat
  | i, [] => (i, 0)
  | i, n :: ns =>
    let here := zeroRun (n :: ns)
    let later := longestZeros (i + 1) ns
    if here ≥ later.2 then (i, here) else later

/-- Hexadecimal pieces with colons between them. -/
def printPieces (ns : List Nat) : String :=
  ":".intercalate (ns.map fun n => String.ofList (Nat.toDigits 16 n))

/-- Written form of a version 6 address, in which the longest run of two or more zeros is left
out. -/
def printIpv6 (ns : List Nat) : String :=
  let (start, count) := longestZeros 0 ns
  if count < 2 then printPieces ns
  else printPieces (ns.take start) ++ "::" ++ printPieces (ns.drop (start + count))

/-! ## Hosts -/

/-- Written form of a host. -/
def Host.print : Host → String
  | name text => text
  | ipv4 n => printIpv4 n
  | ipv6 ns => "[" ++ printIpv6 ns ++ "]"

/-- The host in square brackets that `cs` begins with. -/
def bracketHost? (cs : List Char) : Except Fault Host :=
  if cs.getLast? = some ']' then
    match ipv6? (cs.drop 1).dropLast with
    | some ns => .ok (.ipv6 ns)
    | none => .error .badIpv6
  else .error .badIpv6

/-- The host of an address with a registered scheme. Its percent-encoded bytes are resolved
first. -/
def domainHost? (cs : List Char) : Except Fault Host :=
  if cs.head? = some '[' then bracketHost? cs
  else
    match (Text.Utf8.decode (Text.Percent.decode cs)).mapM id with
    | none => .error .badDomain
    | some cs =>
      match Domain.plain? cs with
      | none => .error .badDomain
      | some cs =>
        if cs.isEmpty then .error .emptyHost
        else if endsInNumber cs then
          match ipv4? cs with
          | some n => .ok (.ipv4 n)
          | none => .error .badIpv4
        else .ok (.name (String.ofList cs))

/-- The characters that the host of an address with another scheme may not hold. -/
def isForbiddenInHost (c : Char) : Bool :=
  c.toNat == 0 || "\t\n\x0d #/:<>?@[\\]^|".toList.contains c

/-- A plain character that is no control. -/
def isPrintable (c : Char) : Bool :=
  0x1f < c.toNat && c.toNat < 0x7f

/-- The host of an address with another scheme, taken as it is. -/
def plainHost? (cs : List Char) : Except Fault Host :=
  if cs.head? = some '[' then bracketHost? cs
  else if cs.any isForbiddenInHost then .error .badHostCharacter
  else .ok (.name (String.ofList (Text.Percent.encodeChars isPrintable cs)))

end UaaAdmin.Url
