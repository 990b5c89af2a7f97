import UaaAdmin.Url.Domain.Repertoire

/-!
# Composition

A letter with marks can be written as one character or as several. Composition takes folded text
apart into letters and marks, puts the marks of each letter into their order, and makes one
character of each pair that can be one, so that the ways to write the same text become one.
`compose_ascii` says that plain text stays as it is.
-/

namespace UaaAdmin.Url.Domain

open Repertoire (combiningClass)

/-! ## Pairs -/

/-- A character with the letters that it makes one character with, and what they become, in the same
order. -/
structure CompositeRow where
  second : Nat
  firsts : String
  composites : String

/-- The pairs that make one character. Characters that are folded away, and syllables, are not
listed. -/
def compositeRows : List CompositeRow := [
  ⟨0x300, "aeiouünеиēōwâăêôơưyἀἁἐἑἠἡἰἱὀὁὐὑὠὡαεηιουωϊ", "àèìòùǜǹѐѝḕṑẁầằềồờừỳἂἃἒἓἢἣἲἳὂὃὒὓὢὣὰὲὴὶὸὺὼῒ"⟩,
  ⟨0x300, "ϋ", "ῢ"⟩,
  ⟨0x301, "aeiouyclnrszügåæøϊαεηιϋουωгкçēïkmõōpũwâăê", "áéíóúýćĺńŕśźǘǵǻǽǿΐάέήίΰόύώѓќḉḗḯḱḿṍṓṕṹẃấắế"⟩,
  ⟨0x301, "ôơưἀἁἐἑἠἡἰἱὀὁὐὑὠὡ", "ốớứἄἅἔἕἤἥἴἵὄὅὔὕὤὥ"⟩,
  ⟨0x302, "aeioucghjswyzạẹọ", "âêîôûĉĝĥĵŝŵŷẑậệộ"⟩, ⟨0x303, "anoiuvâăeêôơưy", "ãñõĩũṽẫẵẽễỗỡữỹ"⟩,
  ⟨0x304, "aeiouüäȧæǫöõȯyиуgḷṛαιυ", "āēīōūǖǟǡǣǭȫȭȱȳӣӯḡḹṝᾱῑῡ"⟩,
  ⟨0x306, "aegiouиужаеȩạαιυ", "ăĕğĭŏŭйўӂӑӗḝặᾰῐῠ"⟩,
  ⟨0x307, "cegzaobdfhmnprsśšṣtwxy𐗒𐗚", "ċėġżȧȯḃḋḟḣṁṅṗṙṡṥṧṩṫẇẋẏ𐗉𐗤"⟩,
  ⟨0x308, "aeiouyιυеіаәжзиоөэучыhõūwxt", "äëïöüÿϊϋёїӓӛӝӟӥӧӫӭӱӵӹḧṏṻẅẍẗ"⟩,
  ⟨0x309, "aâăeêioôơuưy", "ảẩẳẻểỉỏổởủửỷ"⟩, ⟨0x30a, "auwy", "åůẘẙ"⟩, ⟨0x30b, "ouу", "őűӳ"⟩,
  ⟨0x30c, "cdelnrstzaiouügkʒjh", "čďěľňřšťžǎǐǒǔǚǧǩǯǰȟ"⟩, ⟨0x30f, "aeioruѵ", "ȁȅȉȍȑȕѷ"⟩,
  ⟨0x311, "aeioru", "ȃȇȋȏȓȗ"⟩, ⟨0x313, "αεηιουωρ", "ἀἐἠἰὀὐὠῤ"⟩, ⟨0x314, "αεηιουωρ", "ἁἑἡἱὁὑὡῥ"⟩,
  ⟨0x31b, "ou", "ơư"⟩, ⟨0x323, "bdhklmnrstvwzaeioơuưy", "ḅḍḥḳḷṃṇṛṣṭṿẉẓạẹịọợụựỵ"⟩, ⟨0x324, "u", "ṳ"⟩,
  ⟨0x325, "a", "ḁ"⟩, ⟨0x326, "st", "șț"⟩, ⟨0x327, "cgklnrstedh", "çģķļņŗşţȩḑḩ"⟩,
  ⟨0x328, "aeiuo", "ąęįųǫ"⟩, ⟨0x32d, "delntu", "ḓḙḽṋṱṷ"⟩, ⟨0x32e, "h", "ḫ"⟩, ⟨0x330, "eiu", "ḛḭṵ"⟩,
  ⟨0x331, "bdklnrtzh", "ḇḏḵḻṉṟṯẕẖ"⟩,
  ⟨0x338, "←→↔⇐⇔⇒∃∈∋∣∥∼≃≅≈=≡≍<>≤≥≲≳≶≷≺≻⊂⊃⊆⊇⊢⊨⊩⊫≼≽⊑⊒⊲", "↚↛↮⇍⇎⇏∄∉∌∤∦≁≄≇≉≠≢≭≮≯≰≱≴≵≸≹⊀⊁⊄⊅⊈⊉⊬⊭⊮⊯⋠⋡⋢⋣⋪"⟩,
  ⟨0x338, "⊳⊴⊵", "⋫⋬⋭"⟩, ⟨0x342, "ἀἁἠἡἰἱὐὑὠὡαηιϊυϋω", "ἆἇἦἧἶἷὖὗὦὧᾶῆῖῗῦῧῶ"⟩, ⟨0x653, "ا", "آ"⟩,
  ⟨0x654, "اويەہے", "أؤئۀۂۓ"⟩, ⟨0x655, "ا", "إ"⟩, ⟨0x93c, "नरळ", "ऩऱऴ"⟩,
  ⟨0x9be, "\u09c7", "\u09cb"⟩, ⟨0x9d7, "\u09c7", "\u09cc"⟩, ⟨0xb3e, "\u0b47", "\u0b4b"⟩,
  ⟨0xb56, "\u0b47", "\u0b48"⟩, ⟨0xb57, "\u0b47", "\u0b4c"⟩, ⟨0xbbe, "\u0bc6\u0bc7", "\u0bca\u0bcb"⟩,
  ⟨0xbd7, "ஒ\u0bc6", "ஔ\u0bcc"⟩, ⟨0xc56, "\u0c46", "\u0c48"⟩, ⟨0xcc2, "\u0cc6", "\u0cca"⟩,
  ⟨0xcd5, "\u0cbf\u0cc6\u0cca", "\u0cc0\u0cc7\u0ccb"⟩, ⟨0xcd6, "\u0cc6", "\u0cc8"⟩,
  ⟨0xd3e, "\u0d46\u0d47", "\u0d4a\u0d4b"⟩, ⟨0xd57, "\u0d46", "\u0d4c"⟩,
  ⟨0xdca, "\u0dd9\u0ddc", "\u0dda\u0ddd"⟩, ⟨0xdcf, "\u0dd9", "\u0ddc"⟩, ⟨0xddf, "\u0dd9", "\u0dde"⟩,
  ⟨0x102e, "ဥ", "ဦ"⟩,
  ⟨0x1b35, "ᬅᬇᬉᬋᬍᬑ\u1b3a\u1b3c\u1b3e\u1b3f\u1b42", "ᬆᬈᬊᬌᬎᬒ\u1b3b\u1b3d\u1b40\u1b41\u1b43"⟩,
  ⟨0x3099, "かきくけこさしすせそたちつてとはひふへほうゝカキクケコサシスセソタチツテトハヒフ", "がぎぐげござじずぜぞだぢづでどばびぶべぼゔゞガギグゲゴザジズゼゾダヂヅデドバビブ"⟩,
  ⟨0x3099, "ヘホウワヰヱヲヽ", "ベボヴヷヸヹヺヾ"⟩, ⟨0x309a, "はひふへほハヒフヘホ", "ぱぴぷぺぽパピプペポ"⟩, ⟨0x110ba, "𑂙𑂛𑂥", "𑂚𑂜𑂫"⟩,
  ⟨0x11127, "𑄱𑄲", "𑄮𑄯"⟩, ⟨0x1133e, "𑍇", "𑍋"⟩, ⟨0x11357, "𑍇", "𑍌"⟩, ⟨0x113b8, "𑏂", "𑏇"⟩,
  ⟨0x113bb, "𑎄", "𑎅"⟩, ⟨0x113c2, "𑎋", "𑎎"⟩, ⟨0x113c2, "𑏂", "𑏅"⟩, ⟨0x113c9, "𑎂", "𑎃"⟩,
  ⟨0x113c9, "𑎐", "𑎑"⟩, ⟨0x113c9, "𑏂", "𑏈"⟩, ⟨0x114b0, "𑒹", "𑒼"⟩, ⟨0x114ba, "𑒹", "𑒻"⟩,
  ⟨0x114bd, "𑒹", "𑒾"⟩, ⟨0x115af, "𑖸𑖹", "𑖺𑖻"⟩, ⟨0x11930, "𑤵", "𑤸"⟩, ⟨0x1611e, "𖄞", "𖄡"⟩,
  ⟨0x1611f, "𖄞", "𖄣"⟩, ⟨0x1611f, "𖄩", "𖄤"⟩, ⟨0x1611f, "𖄡", "𖄦"⟩, ⟨0x1611f, "𖄢", "𖄧"⟩,
  ⟨0x16120, "𖄞", "𖄥"⟩, ⟨0x16120, "𖄡", "𖄨"⟩, ⟨0x16129, "𖄞", "𖄢"⟩, ⟨0x16d67, "𖵧𖵣𖵩", "𖵨𖵩𖵪"⟩]

/-- The pairs of one row, each with what it becomes. -/
def CompositeRow.pairs (r : CompositeRow) : List (Char × Char) :=
  r.firsts.toList.zip r.composites.toList

/-! ## Syllables -/

/-- The first of the characters that begin a syllable. -/
def leadBase : Nat := 0x1100

/-- The first of the vowels of syllables. -/
def vowelBase : Nat := 0x1161

/-- The place in front of the characters that end a syllable, which is that of no ending. -/
def tailBase : Nat := 0x11a7

/-- The first syllable; the others follow in the order of lead, vowel and tail. -/
def syllableBase : Nat := 0xac00

/-- There are 19 leads, 21 vowels, and 28 tails with the missing one. -/
def syllableCount : Nat := 19 * 21 * 28

/-- The syllable that two characters make: a lead and a vowel, or a syllable without a tail and a
tail. -/
def composeSyllable? (a b : Char) : Option Char :=
  let (m, n) := (a.toNat, b.toNat)
  if leadBase ≤ m && m < leadBase + 19 && vowelBase ≤ n && n < vowelBase + 21 then
    some (Char.ofNat (syllableBase + ((m - leadBase) * 21 + (n - vowelBase)) * 28))
  else if syllableBase ≤ m && m < syllableBase + syllableCount && (m - syllableBase) % 28 == 0
      && tailBase < n && n < tailBase + 28 then
    some (Char.ofNat (m + (n - tailBase)))
  else none

/-- The two characters that a syllable is made of. -/
def splitSyllable? (c : Char) : Option (Char × Char) :=
  let n := c.toNat
  if syllableBase ≤ n && n < syllableBase + syllableCount then
    let place := n - syllableBase
    if place % 28 == 0 then
      some (Char.ofNat (leadBase + place / 28 / 21), Char.ofNat (vowelBase + place / 28 % 21))
    else some (Char.ofNat (n - place % 28), Char.ofNat (tailBase + place % 28))
  else none

/-! ## Taking apart and putting together -/

/-- The character that two characters make. -/
def composePair? (a b : Char) : Option Char :=
  composeSyllable? a b <|> compositeRows.findSome? fun r =>
    if r.second = b.toNat then (r.pairs.find? (·.1 == a)).map (·.2) else none

/-- The two characters that a character is made of. -/
def splitPair? (c : Char) : Option (Char × Char) :=
  splitSyllable? c <|> compositeRows.findSome? fun r =>
    (r.pairs.find? (·.2 == c)).map fun p => (p.1, Char.ofNat r.second)

/-- The letter and the marks that a character is made of, in at most `depth` steps. -/
def partsOf : Nat → Char → List Char
  | 0, c => [c]
  | depth + 1, c =>
    match splitPair? c with
    | some (a, b) => partsOf depth a ++ [b]
    | none => [c]

/-- The most steps in which a character is made. -/
def maxSteps : Nat := 3

/-- Puts a character behind a text, which is given latest first: a mark goes in front of the marks
of higher classes. -/
def place (c : Char) : List Char → List Char
  | [] => [c]
  | p :: ps =>
    if 0 < combiningClass c && combiningClass c < combiningClass p then p :: place c ps
    else c :: p :: ps

/-- The text in letters and marks, the marks of each letter in their order. -/
def decompose (cs : List Char) : List Char :=
  ((cs.flatMap (partsOf maxSteps)).foldl (fun done c => place c done) []).reverse

/-- Where the composition stands: what is finished, latest first, the letter that takes marks up,
and the marks behind it that it did not take up, latest first. -/
structure Composing where
  done : List Char
  letter : Option Char
  marks : List Char

/-- All that has been read, latest first. -/
def Composing.chars (s : Composing) : List Char :=
  s.marks ++ s.letter.toList ++ s.done

/-- The character reaches the letter past the marks. A mark that was not taken up keeps those of its
class from the letter, and any mark keeps another letter from it. -/
def Composing.reaches (s : Composing) (c : Char) : Bool :=
  s.marks.head?.all fun m => combiningClass m < combiningClass c

/-- Reads one more character. -/
def Composing.push (s : Composing) (c : Char) : Composing :=
  match s.letter.bind fun a => if s.reaches c then composePair? a c else none with
  | some b => { s with letter := some b }
  | none =>
    if combiningClass c = 0 then ⟨s.chars, some c, []⟩ else { s with marks := c :: s.marks }

/-- The folded text `cs` in as few characters as can be. -/
def compose (cs : List Char) : List Char :=
  if cs.all fun c => c.toNat < 0x80 then cs
  else ((decompose cs).foldl Composing.push ⟨[], none, []⟩).chars.reverse

theorem compose_ascii {cs : List Char} (h : ∀ c ∈ cs, c.toNat < 0x80) : compose cs = cs := by
  have : (cs.all fun c => c.toNat < 0x80) = true := by simpa using h
  simp only [compose, this, if_pos]

end UaaAdmin.Url.Domain
