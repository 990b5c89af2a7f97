import UaaAdmin.Config.Certificate
import UaaAdmin.Text.Base64

/-!
# Certificates

Extra certificates are given as text, each in a section with a first and a last line. What stands
outside of sections does not count, so that a text without sections holds no certificate and is
accepted. A section that does not end, or does not hold what it is for, is not.
-/

namespace UaaAdmin.Certificates

/-- What a line says about sections: nothing, that one begins, or that one would begin if the line
were well-formed. -/
inductive Opening where
  | missing
  | kind (name : List Char)
  | malformed

/-- What the first line of a section begins with. -/
def openingMark : List Char := "-----BEGIN ".toList

/-- What the last line of a section begins with. -/
def closingMark : List Char := "-----END ".toList

/-- What stands behind the kind of a section. -/
def endMark : List Char := "-----".toList

/-- What a line says about sections. Behind the kind come five dashes, which may be mixed with
blanks; blanks in front of them are a part of the kind. -/
def openingOf (line : List Char) : Opening :=
  if openingMark.isPrefixOf line then
    let text := line.drop openingMark.length
    let ending := (text.reverse.takeWhile fun c => c == '-' || c == ' ').reverse
    let kind := text.take (text.length - ending.length) ++ ending.takeWhile (· == ' ')
    if ending.count '-' = endMark.length then .kind kind else .malformed
  else .missing

/-- The line ends a section of this kind. -/
def isClosing (kind line : List Char) : Bool :=
  (closingMark ++ kind ++ endMark).isPrefixOf line

/-- The kind of section that holds a certificate. -/
def certificateKind : String := "CERTIFICATE"

/-- The other kinds of sections that hold bytes. -/
def otherKinds : List String :=
  ["PUBLIC KEY", "RSA PRIVATE KEY", "PRIVATE KEY", "EC PRIVATE KEY", "X509 CRL",
    "CERTIFICATE REQUEST", "ECHCONFIG"]

/-- A section of this kind may hold this text: one that holds bytes has to be readable, and one with
a certificate has to hold one that can be trusted. -/
def isAcceptableContent (kind content : List Char) : Bool :=
  let kind := String.ofList kind
  if kind = certificateKind then (Text.Base64.decode? content).any Certificate.isTrustable
  else !otherKinds.contains kind || (Text.Base64.decode? content).isSome

/-- The lines are acceptable, where `inside` is the kind of the section that has begun, and
`content` holds its lines, latest first. A section that begins inside another takes over its
lines. -/
def acceptsLines (inside : Option (List Char)) (content : List (List Char)) :
    List (List Char) → Bool
  | [] => inside.isNone
  | line :: lines =>
    match openingOf line with
    | .malformed => false
    | .kind name => acceptsLines (some name) content lines
    | .missing =>
      match inside with
      | none => acceptsLines none content lines
      | some kind =>
        if isClosing kind line then
          isAcceptableContent kind content.reverse.flatten && acceptsLines none [] lines
        else acceptsLines (some kind) (line :: content) lines

/-- The lines of a text. -/
def linesOf (text : String) : List (List Char) :=
  text.toList.splitOnP fun c => c == '\n' || c == '\x0d'

/-- The text holds certificates only in sections that are well-formed. -/
def isAcceptable (text : String) : Bool :=
  acceptsLines none [] (linesOf text)

end UaaAdmin.Certificates
