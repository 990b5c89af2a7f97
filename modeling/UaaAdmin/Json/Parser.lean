import UaaAdmin.Json.Token
import UaaAdmin.Text.Utf8

/-!
# Reading JSON

Builds the value of a sequence of tokens with a stack of the containers that are still open. Every
token is taken once, so the depth of a value has no limit here.
-/

namespace UaaAdmin.Json

/-- A container under way: the parts read so far, latest first, and for an object the key whose
value is being read. A key is `none` if its literal is garbled. -/
inductive Frame where
  | array (items : List Json)
  | object (members : List (Option String × Json)) (key : Option String)

/-- What may come next. -/
inductive Expect where
  /-- A value must come. -/
  | value
  /-- The first item of an array, or its end. -/
  | itemOrEnd
  /-- The first key of an object, or its end. -/
  | keyOrEnd (members : List (Option String × Json))
  /-- A key must come. -/
  | key (members : List (Option String × Json))
  /-- The colon behind a key must come. -/
  | colon (members : List (Option String × Json)) (key : Option String)
  /-- The value `v` is complete; the container around it goes on, or the text ends. -/
  | after (v : Json)

/-- Where the reader stands. -/
structure ParseState where
  expect : Expect
  stack : List Frame

/-- The object with these members, latest first; it is garbled if one of its keys is. -/
def closeObject (members : List (Option String × Json)) : Json :=
  match members.reverse.mapM fun m => m.1.map fun k => (k, m.2) with
  | some ms => object ms
  | none => garbled

/-- The key that a leaf gives. -/
def key? : Json → Option (Option String)
  | text s => some (some s)
  | garbled => some none
  | _ => none

/-- Takes a token that starts a value. -/
def startValue (stack : List Frame) : Token → Option ParseState
  | .leaf v => some ⟨.after v, stack⟩
  | .openArray => some ⟨.itemOrEnd, stack⟩
  | .openObject => some ⟨.keyOrEnd [], stack⟩
  | _ => none

/-- Takes the next token. -/
def parseStep (st : ParseState) (t : Token) : Option ParseState :=
  match st.expect with
  | .value => startValue st.stack t
  | .itemOrEnd =>
    match t with
    | .closeArray => some ⟨.after (array []), st.stack⟩
    | t => startValue (.array [] :: st.stack) t
  | .keyOrEnd members =>
    match t with
    | .closeObject => some ⟨.after (closeObject members), st.stack⟩
    | .leaf v => (key? v).map fun k => ⟨.colon members k, st.stack⟩
    | _ => none
  | .key members =>
    match t with
    | .leaf v => (key? v).map fun k => ⟨.colon members k, st.stack⟩
    | _ => none
  | .colon members k =>
    match t with
    | .colon => some ⟨.value, .object members k :: st.stack⟩
    | _ => none
  | .after v =>
    match t, st.stack with
    | .comma, .array items :: stack => some ⟨.value, .array (v :: items) :: stack⟩
    | .closeArray, .array items :: stack => some ⟨.after (array (v :: items).reverse), stack⟩
    | .comma, .object members k :: stack => some ⟨.key ((k, v) :: members), stack⟩
    | .closeObject, .object members k :: stack =>
      some ⟨.after (closeObject ((k, v) :: members)), stack⟩
    | _, _ => none

/-- Takes all the tokens. -/
def parseTokens (st : ParseState) : List Token → Option ParseState
  | [] => some st
  | t :: ts => (parseStep st t).bind fun st => parseTokens st ts

/-- The value of a sequence of tokens. -/
def ofTokens? (ts : List Token) : Option Json :=
  match parseTokens ⟨.value, []⟩ ts with
  | some ⟨.after v, []⟩ => some v
  | _ => none

/-- The value of a sequence of characters. -/
def parse? (cs : List (Option Char)) : Option Json :=
  (scan cs).bind ofTokens?

/-- The value of a text. -/
def ofText? (s : String) : Option Json :=
  parse? (s.toList.map some)

/-- The value of a text in UTF-8. -/
def ofBytes? (bytes : List UInt8) : Option Json :=
  parse? (Text.Utf8.decode bytes)

end UaaAdmin.Json
