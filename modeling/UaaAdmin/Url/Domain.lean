import UaaAdmin.Url.Domain.Composition
import UaaAdmin.Url.Domain.Direction
import UaaAdmin.Url.Domain.Folding
import UaaAdmin.Url.Punycode

/-!
# Domain names

A domain name is folded and composed, so that different ways to type it become one, and cut into
labels at its full stops. A label of plain characters is kept; any other is checked, and written in
plain characters behind a mark of its own. `plain?_ascii` says that in a plain name without such
marks no more is changed than the capitals.
-/

namespace UaaAdmin.Url.Domain

open UaaAdmin.Text

/-- The plain characters that no domain name may hold. -/
def isForbidden (c : Char) : Bool :=
  c.toNat ≤ 0x20 || c.toNat == 0x7f || "%#/:<>?@[\\]^|".toList.contains c

/-- The character is plain. -/
def isPlain (c : Char) : Bool :=
  c.toNat < 0x80

/-! ## Folding a whole name -/

/-- The folded and composed form of a name; `none` if it has characters that may not stand there. -/
def foldDomain? (cs : List Char) : Option (List Char) :=
  (fold? cs).bind fun folded =>
    let cs := compose folded
    if cs.any isForbidden then none else some cs

theorem fold?_ascii {cs : List Char} (h : ∀ c ∈ cs, c.toNat < 0x80) :
    fold? cs = some (cs.map Char.toLower) := by
  induction cs with
  | nil => rfl
  | cons c cs ih =>
    have ih := ih fun d hd => h d (List.mem_cons_of_mem c hd)
    simp only [fold?, Option.map_eq_some_iff] at ih
    obtain ⟨forms, hf, hj⟩ := ih
    simp [fold?, foldChar?_ascii (h c List.mem_cons_self), hf, hj]

theorem toNat_toLower_lt {c : Char} (h : c.toNat < 0x80) : c.toLower.toNat < 0x80 := by
  have h : c.val.toNat < 128 := h
  show c.toLower.val.toNat < 128
  unfold Char.toLower
  split
  · rename_i hc
    have hz : c.val.toNat ≤ 90 := hc.2
    have hd : ('a'.val - 'A'.val).toNat = 32 := rfl
    simp only [UInt32.toNat_add, hd]
    omega
  · exact h

/-- Of a plain text only the capitals change. -/
theorem foldDomain?_ascii {cs : List Char} (h : ∀ c ∈ cs, c.toNat < 0x80)
    (hf : (cs.map Char.toLower).any isForbidden = false) :
    foldDomain? cs = some (cs.map Char.toLower) := by
  have hl : ∀ c ∈ cs.map Char.toLower, c.toNat < 0x80 := by
    intro c hc
    obtain ⟨d, hd, rfl⟩ := List.mem_map.mp hc
    exact toNat_toLower_lt (h d hd)
  simp only [foldDomain?, fold?_ascii h, Option.bind_some, compose_ascii hl, hf]
  rfl

/-! ## Labels -/

/-- A part of a domain name: the characters that it stands for, and how it is written. -/
structure Label where
  chars : List Char
  plain : List Char

/-- What a label begins with that stands for other characters. -/
def codedMark : List Char := "xn--".toList

/-- The longest form that is read behind the mark. -/
def maxCoded : Nat := 2000

/-- The longest label that is written behind the mark. -/
def maxUncoded : Nat := 1000

/-- The characters of a label that is not plain may stand together: the first is no mark, and the
joiners are where they may be. -/
def isWellFormed (label : List Char) : Bool :=
  !(label.take 1).any Repertoire.isMark && mayJoinAll [] label

/-- The characters are folded and composed already, and none of them would end a label. -/
def isFolded (label : List Char) : Bool :=
  !label.contains '.' && foldDomain? label == some label

/-- The label with the form behind the mark. -/
def decodeLabel? (label : List Char) : Option Label :=
  let form := label.drop codedMark.length
  if label.getLast? = some '-' || form.length > maxCoded then none
  else
    (Punycode.decode? form).bind fun chars =>
      if isFolded chars && isWellFormed chars then some ⟨chars, label⟩ else none

/-- The label of folded characters. -/
def label? (cs : List Char) : Option Label :=
  let isCoded := codedMark.isPrefixOf cs
  if cs.all isPlain then
    if isCoded then decodeLabel? cs else some ⟨cs, cs⟩
  else if isCoded || cs.length > maxUncoded || !isWellFormed cs then none
  else some ⟨cs, codedMark ++ Punycode.encode cs⟩

/-- The plain form of a domain name. -/
def plain? (cs : List Char) : Option (List Char) := do
  let folded ← foldDomain? cs
  let labels ← (folded.splitOn '.').mapM label?
  if areOrdered (labels.map Label.chars) then
    some (['.'].intercalate (labels.map Label.plain))
  else none

/-- The characters of a part are characters of the whole. -/
theorem mem_of_mem_splitOn {cs label : List Char} {c mark : Char}
    (hl : label ∈ cs.splitOn mark) (hc : c ∈ label) : c ∈ cs := by
  have key : ∀ parts : List (List Char), label ∈ parts → c ∈ [mark].intercalate parts := by
    intro parts
    induction parts with
    | nil => intro h; cases h
    | cons part parts ih =>
      intro h
      cases parts with
      | nil =>
        rcases List.mem_cons.mp h with h | h
        · subst h
          simpa using hc
        · cases h
      | cons next parts =>
        rw [List.intercalate_cons_cons]
        rcases List.mem_cons.mp h with h | h
        · subst h
          simp [hc]
        · simp [ih h]
  have := key _ hl
  rwa [List.intercalate_splitOn] at this

/-- A plain label that does not begin with the mark is kept. -/
theorem label?_ascii {label : List Char} (h : ∀ c ∈ label, c.toNat < 0x80)
    (hm : codedMark.isPrefixOf label = false) : label? label = some ⟨label, label⟩ := by
  have hp : label.all isPlain = true := by
    simpa [isPlain] using h
  simp only [label?, hp, hm, if_pos, Bool.false_eq_true, if_false]

/-- Of a plain name without marks only the capitals change. -/
theorem plain?_ascii {cs : List Char} (h : ∀ c ∈ cs, c.toNat < 0x80)
    (hf : (cs.map Char.toLower).any isForbidden = false)
    (hm : ∀ label ∈ (cs.map Char.toLower).splitOn '.', codedMark.isPrefixOf label = false) :
    plain? cs = some (cs.map Char.toLower) := by
  have hc : ∀ label ∈ (cs.map Char.toLower).splitOn '.', ∀ c ∈ label, c.toNat < 0x80 := by
    intro label hl c hc
    obtain ⟨d, hd, rfl⟩ := List.mem_map.mp (mem_of_mem_splitOn hl hc)
    exact toNat_toLower_lt (h d hd)
  have hls : ∀ labels : List (List Char),
      (∀ label ∈ labels, (∀ c ∈ label, c.toNat < 0x80) ∧ codedMark.isPrefixOf label = false) →
      labels.mapM label? = some (labels.map fun label => ⟨label, label⟩) := by
    intro labels
    induction labels with
    | nil => intro _; rfl
    | cons label labels ih =>
      intro hl
      have ih := ih fun l hl' => hl l (List.mem_cons_of_mem label hl')
      obtain ⟨ha, hb⟩ := hl label List.mem_cons_self
      simp [label?_ascii ha hb, ih]
  have hmap := hls _ fun label hl => ⟨hc label hl, hm label hl⟩
  simp only [plain?, foldDomain?_ascii h hf, Option.bind_eq_bind, Option.bind_some, hmap,
    List.map_map, Function.comp_def, List.map_id', areOrdered_ascii hc, if_pos,
    List.intercalate_splitOn]

end UaaAdmin.Url.Domain
