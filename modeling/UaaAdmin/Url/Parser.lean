import UaaAdmin.Text.Blank
import UaaAdmin.Url.Host

/-!
# Addresses

Reading and writing addresses by the URL standard, without a base address. The addresses of the
registered schemes always have a host and a path; of the other schemes some have neither.
-/

namespace UaaAdmin

/-- The path of an address: segments behind slashes, or a text without structure. -/
inductive Url.Path where
  | flat (text : String)
  | segments (list : List String)
  deriving DecidableEq

/-- An address. An empty user name or password is none. -/
structure Url where
  scheme : String
  username : String
  password : String
  host : Option Url.Host
  port : Option Nat
  path : Url.Path
  query : Option String
  fragment : Option String
  deriving DecidableEq

namespace Url

/-! ## Schemes -/

/-- The port that is meant when an address of the scheme has none. -/
def defaultPort? (scheme : String) : Option Nat :=
  if scheme = "http" || scheme = "ws" then some 80
  else if scheme = "https" || scheme = "wss" then some 443
  else if scheme = "ftp" then some 21
  else none

/-- The scheme is registered as special: its addresses have a domain and a path of segments. -/
def isSpecial (scheme : String) : Bool :=
  (defaultPort? scheme).isSome || scheme == "file"

/-! ## Characters that stand for themselves -/

/-- In a fragment. -/
def keptInFragment (c : Char) : Bool :=
  0x20 < c.toNat && c.toNat < 0x7f && !"\x22<>\x60".toList.contains c

/-- In a path. -/
def keptInPath (c : Char) : Bool :=
  keptInFragment c && !"#?\x7b\x7d".toList.contains c

/-- In a user name or password. -/
def keptInUser (c : Char) : Bool :=
  keptInPath c && !"/:;=@[\\]^|".toList.contains c

/-- In a query. -/
def keptInQuery (special : Bool) (c : Char) : Bool :=
  0x20 < c.toNat && c.toNat < 0x7f && !"\x22#<>".toList.contains c && !(special && c == '\x27')

/-- The text of characters with those encoded that may not stand there. -/
def encodeText (keep : Char → Bool) (cs : List Char) : String :=
  String.ofList (Text.Percent.encodeChars keep cs)

/-! ## Paths -/

/-- The segment stands for the place it is in. -/
def isSingleDot (cs : List Char) : Bool :=
  let low := cs.map Char.toLower
  low == ".".toList || low == "%2e".toList

/-- The segment stands for the place above. -/
def isDoubleDot (cs : List Char) : Bool :=
  let low := cs.map Char.toLower
  low == "..".toList || low == ".%2e".toList || low == "%2e.".toList || low == "%2e%2e".toList

/-- A letter and the character behind it name a drive. -/
def isDrivePair (a mark : Char) : Bool :=
  a.isAlpha && (mark == ':' || mark == '|')

/-- The text is the name of a drive. -/
def isDrive : List Char → Bool
  | [a, mark] => isDrivePair a mark
  | _ => false

/-- The segment begins with the name of a drive. -/
def beginsWithDrive : List Char → Bool
  | a :: mark :: rest => isDrivePair a mark && (rest.isEmpty || rest.head? == some '\\')
  | _ => false

/-- The path one place up, latest segment first. A drive is not left. -/
def above : List String → List String
  | [] => []
  | last :: rest => if beginsWithDrive last.toList then last :: rest else rest

/-- A segment as it is kept behind the path `done`. The drive that a path of files begins with is
written with a colon. -/
def keptSegment (files : Bool) (done : List String) (cs : List Char) : String :=
  if files && done.isEmpty && isDrive cs then String.ofList (cs.take 1 ++ [':'])
  else encodeText keptInPath cs

/-- The path `done`, latest segment first, with the following raw segments walked. -/
def walk (files : Bool) (done : List String) : List (List Char) → List String
  | [] => done.reverse
  | [cs] =>
    if isDoubleDot cs then ("" :: above done).reverse
    else if isSingleDot cs then ("" :: done).reverse
    else (keptSegment files done cs :: done).reverse
  | cs :: rest =>
    if isDoubleDot cs then walk files (above done) rest
    else if isSingleDot cs then walk files done rest
    else walk files (keptSegment files done cs :: done) rest

/-- The character ends a segment. -/
def isSlash (special : Bool) (c : Char) : Bool :=
  c == '/' || (special && c == '\\')

/-- The text without the slash in front, if there is one. -/
def dropSlash (special : Bool) : List Char → List Char
  | [] => []
  | c :: cs => if isSlash special c then cs else c :: cs

/-- The segments of a path, with or without a slash in front. -/
def segmentsOf (special : Bool) (cs : List Char) : List String :=
  walk false [] ((dropSlash special cs).splitOnP (isSlash special))

/-! ## Hosts and what stands around them -/

/-- A text cut in front of the first character that satisfies `p`. -/
def cutAt (p : Char → Bool) (cs : List Char) : List Char × List Char :=
  (cs.takeWhile (!p ·), cs.dropWhile (!p ·))

/-- A text cut at the first `mark`, which is dropped. -/
def cutOff (mark : Char) (cs : List Char) : List Char × Option (List Char) :=
  match cutAt (· == mark) cs with
  | (before, _ :: behind) => (before, some behind)
  | (before, []) => (before, none)

/-- Cuts a user part off, which ends at the last `@`. -/
def cutUser (cs : List Char) : Option (List Char) × List Char :=
  let behind := (cs.reverse.takeWhile (· ≠ '@')).reverse
  if behind.length = cs.length then (none, cs)
  else (some (cs.take (cs.length - behind.length - 1)), behind)

/-- Cuts in front of the first colon that is not between square brackets. -/
def cutPort (inside : Bool) : List Char → List Char × List Char
  | [] => ([], [])
  | c :: cs =>
    if c == ':' && !inside then ([], c :: cs)
    else
      let inside := if c == '[' then true else if c == ']' then false else inside
      let (host, port) := cutPort inside cs
      (c :: host, port)

/-- The port behind a colon; none if it is missing or the scheme's own. -/
def port? (scheme : String) (cs : List Char) : Except Fault (Option Nat) :=
  match cs with
  | [] => .ok none
  | _ :: ds =>
    if ds.isEmpty then .ok none
    else
      match numberIn? 10 ds with
      | some n =>
        if n > 65535 then .error .badPort
        else .ok (if defaultPort? scheme = some n then none else some n)
      | none => .error .badPort

/-- What stands between the two slashes and the path. A backslash ends a port even where it is no
slash, and what follows it, the `rest`, goes to the path. -/
structure Authority where
  username : String
  password : String
  host : Host
  port : Option Nat
  rest : List Char

/-- Reads an authority; `more` says that something follows it. -/
def authority? (scheme : String) (cs : List Char) (more : Bool) : Except Fault Authority := do
  let special := isSpecial scheme
  let (user, rest) := cutUser cs
  let userText := user.getD []
  -- A lone `@` in front of a path names no host, even where an empty host is allowed.
  if user = some [] && rest.isEmpty && more then throw .emptyHost
  let (name, secret) := cutOff ':' userText
  let username := encodeText keptInUser name
  let password := encodeText keptInUser (secret.getD [])
  let (hostText, behindHost) := cutPort false rest
  let (portText, behindPort) := cutAt (· == '\\') behindHost
  if hostText.isEmpty && (special || !portText.isEmpty || username ≠ "" || password ≠ "") then
    throw .emptyHost
  let host ← if special then domainHost? hostText else plainHost? hostText
  let port ← port? scheme portText
  return ⟨username, password, host, port, behindPort⟩

/-! ## Whole addresses -/

/-- The text without blanks and controls at its ends, and without tabs and line ends. -/
def clean (cs : List Char) : List Char :=
  (Text.dropBothWhile (fun c => c.toNat ≤ 0x20) cs).filter fun c =>
    !(c == '\t' || c == '\n' || c == '\x0d')

/-- Cuts a scheme off, in lower case. -/
def cutScheme? (cs : List Char) : Option (String × List Char) :=
  match cutOff ':' cs with
  | (scheme, some rest) =>
    if (scheme.take 1).any Char.isAlpha
        && scheme.all fun c => c.isAlphanum || c == '+' || c == '-' || c == '.' then
      some (String.ofList (scheme.map Char.toLower), rest)
    else none
  | (_, none) => none

/-- The segments of a path of files, without the empty ones in front. -/
def filePath (segments : List String) : Path :=
  let list := segments.dropWhile (· == "")
  .segments (if list.isEmpty then [""] else list)

/-- Reads what follows the scheme of a `file` address. The machine itself is the host that goes
without saying, and a drive is always one of this machine. -/
def fileBody? (cs : List Char) : Except Fault (Host × Path) := do
  let segments (cs : List Char) : List String := walk true [] (cs.splitOnP (isSlash true))
  let here (cs : List Char) : Host × Path := (.name "", filePath (segments cs))
  match cs with
  | a :: b :: rest =>
    if isSlash true a && isSlash true b then
      let (hostText, pathText) := cutAt (isSlash true) rest
      if isDrive hostText then return here rest
      let host ← if hostText.isEmpty then pure (.name "") else domainHost? hostText
      if host = .name "" || host = .name "localhost" then return here pathText
      let list := segments (dropSlash true pathText)
      let onDrive := list.head?.any fun s => isDrive s.toList
      return (if onDrive then .name "" else host, filePath list)
    else return here (dropSlash true cs)
  | cs => return here (dropSlash true cs)

/-- Reads an address. -/
def parse (s : String) : Except Fault Url := do
  let some (scheme, rest) := cutScheme? (clean s.toList) | throw .noScheme
  let special := isSpecial scheme
  let (rest, fragmentText) := cutOff '#' rest
  let (body, queryText) := cutOff '?' rest
  let query := queryText.map (encodeText (keptInQuery special))
  let fragment := fragmentText.map (encodeText keptInFragment)
  let withAuthority (cs : List Char) : Except Fault Url := do
    let (authorityText, pathText) := cutAt (isSlash special) cs
    let more := !pathText.isEmpty || query.isSome || fragment.isSome
    let a ← authority? scheme authorityText more
    let pathText := a.rest ++ pathText
    let segments := if pathText.isEmpty && !special then [] else segmentsOf special pathText
    let path := Path.segments segments
    return ⟨scheme, a.username, a.password, some a.host, a.port, path, query, fragment⟩
  if scheme = "file" then
    let (host, path) ← fileBody? body
    return ⟨scheme, "", "", some host, none, path, query, fragment⟩
  else if special then withAuthority (body.dropWhile (isSlash true))
  else
    match body with
    | '/' :: '/' :: rest => withAuthority rest
    | '/' :: _ =>
      return ⟨scheme, "", "", none, none, .segments (segmentsOf false body), query, fragment⟩
    | _ => return ⟨scheme, "", "", none, none, .flat (encodeText isPrintable body), query, fragment⟩

/-- Written form of a path. -/
def Path.print : Path → String
  | flat text => text
  | segments list => String.join (list.map ("/" ++ ·))

/-- Written form of the user part with its `@`. -/
def printUser (u : Url) : String :=
  if u.username = "" && u.password = "" then ""
  else u.username ++ (if u.password = "" then "" else ":" ++ u.password) ++ "@"

/-- Written form of what stands between scheme and path. Two dots keep a path that begins with two
slashes from being taken for a host. -/
def printAuthority (u : Url) : String :=
  match u.host with
  | some host =>
    "//" ++ u.printUser ++ host.print ++ (u.port.map fun n => ":" ++ toString n).getD ""
  | none =>
    match u.path with
    | .segments ("" :: _ :: _) => "/."
    | _ => ""

/-- Written form of an address. -/
def print (u : Url) : String :=
  u.scheme ++ ":" ++ u.printAuthority ++ u.path.print ++ (u.query.map ("?" ++ ·)).getD ""
    ++ (u.fragment.map ("#" ++ ·)).getD ""

/-- The address as a request names it, without user and fragment. -/
def target (u : Url) : String :=
  print { u with username := "", password := "", fragment := none }

/-- The host as a text, unless it is missing or empty. -/
def hostText? (u : Url) : Option String :=
  match u.host with
  | some (.name "") => none
  | some host => some host.print
  | none => none

/-- The address with another host, which is read from a text up to its first colon. -/
def withHost (u : Url) (text : String) : Except Fault Url := do
  let cs := text.toList
  let bracketed := cs.head? = some '[' && cs.getLast? = some ']'
  if !bracketed && cs.head? = some ':' then throw .badHostCharacter
  -- A port behind the new host is dropped; the address keeps its own.
  let cs := if bracketed then cs else (cutAt (· == ':') cs).1
  let host ← if isSpecial u.scheme then domainHost? cs else plainHost? cs
  return { u with host := some host }

end Url

end UaaAdmin
