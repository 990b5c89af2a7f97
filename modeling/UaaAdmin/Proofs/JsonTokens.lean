import Mathlib.Data.List.TakeWhile
import UaaAdmin.Json.Printer
import UaaAdmin.Json.Token

/-!
# The tokens of a printed value

A printed value is cut into its tokens (`Json.tokens`) again, whatever stands behind it. What may
stand there is limited only for names and numbers, which end where the next character does not
belong to a word (`Delimited`).

`Scans` says that some characters are read from one state to another; it composes, so the cut of a
value is put together from that of its parts. The payoff is `scanFrom_printChars`.
-/

namespace UaaAdmin.Json

/-! ## Values whose text is exact -/

/-- The text of the value denotes the value itself: all its numbers are integers that are kept, and
no part is garbled. -/
inductive IsExact : Json → Prop
  | null : IsExact null
  | bool (b : Bool) : IsExact (bool b)
  | int {n : Int} (hlow : -0x8000000000000000 ≤ n) (hhigh : n < 0x10000000000000000) :
    IsExact (int n)
  | text (s : String) : IsExact (text s)
  | array {items : List Json} (h : ∀ v ∈ items, IsExact v) : IsExact (array items)
  | object {members : List (String × Json)} (h : ∀ m ∈ members, IsExact m.2) :
    IsExact (object members)

mutual

/-- The tokens of a value. -/
def tokens : Json → List Token
  | array items => .openArray :: itemTokens items
  | object members => .openObject :: memberTokens members
  | v => [.leaf v]

/-- The tokens of the items of an array and its end. -/
def itemTokens : List Json → List Token
  | [] => [.closeArray]
  | [v] => tokens v ++ [.closeArray]
  | v :: vs => tokens v ++ .comma :: itemTokens vs

/-- The tokens of the members of an object and its end. -/
def memberTokens : List (String × Json) → List Token
  | [] => [.closeObject]
  | [(k, v)] => .leaf (text k) :: .colon :: (tokens v ++ [.closeObject])
  | (k, v) :: ms => .leaf (text k) :: .colon :: (tokens v ++ .comma :: memberTokens ms)

end

/-! ## Reading some characters -/

theorem map_append_map_append (ts ts' : List Token) (o : Option (List Token)) :
    (o.map (ts' ++ ·)).map (ts ++ ·) = o.map (ts ++ ts' ++ ·) := by
  cases o with
  | none => rfl
  | some us => exact congrArg some (List.append_assoc ts ts' us).symm

/-- From the state `st` the characters `cs` give the tokens `ts` and leave the state `st'`, whatever
follows. -/
def Scans (st : Scan) (cs : List (Option Char)) (ts : List Token) (st' : Scan) : Prop :=
  ∀ rest, scanFrom st (cs ++ rest) = (scanFrom st' rest).map (ts ++ ·)

namespace Scans

variable {st st' st'' : Scan} {cs cs' : List (Option Char)} {ts ts' : List Token}

theorem nil (st : Scan) : Scans st [] [] st := by
  intro rest
  simp

theorem append (h : Scans st cs ts st') (h' : Scans st' cs' ts' st'') :
    Scans st (cs ++ cs') (ts ++ ts') st'' := by
  intro rest
  rw [List.append_assoc, h, h', map_append_map_append]

theorem single {c : Option Char} (h : scanStep st c = some (ts, st')) : Scans st [c] ts st' := by
  intro rest
  rw [List.singleton_append, scanFrom, h]
  show (scanFrom st' rest).bind (fun us => some (ts ++ us)) = _
  cases scanFrom st' rest <;> rfl

theorem cons {c : Option Char} (h : scanStep st c = some ([], st')) (h' : Scans st' cs ts st'') :
    Scans st (c :: cs) ts st'' :=
  (single h).append h'

theorem token {c : Option Char} {t : Token} (h : scanStep st c = some ([t], st'))
    (h' : Scans st' cs ts st'') : Scans st (c :: cs) (t :: ts) st'' :=
  (single h).append h'

end Scans

/-! ## Text literals -/

/-- A character that stands for itself in a text literal. -/
def IsPlain (c : Char) : Prop := c ≠ '\x22' ∧ c ≠ '\\' ∧ ¬c.toNat < 0x20

instance (c : Char) : Decidable (IsPlain c) :=
  inferInstanceAs (Decidable (c ≠ '\x22' ∧ c ≠ '\\' ∧ ¬c.toNat < 0x20))

/-- A digit of base 16 is read as what it is written for. -/
theorem hexDigit?_hexChar {n : Nat} (h : n < 16) : hexDigit? (hexChar n) = some n := by
  have hall : ∀ m : Fin 16, hexDigit? (hexChar m) = some m.val := by decide
  exact hall ⟨n, h⟩

/-- How a character is escaped: with one character behind a backslash, with the digits of its code,
or not at all. -/
theorem escapeChar_cases (c : Char) :
    (∃ d, escapeChar c = ['\\', d] ∧ shortEscape? d = some c ∧ 0x20 ≤ d.toNat) ∨
    (c.toNat < 0x20 ∧
      escapeChar c = ['\\', 'u', '0', '0', hexChar (c.toNat / 16), hexChar (c.toNat % 16)]) ∨
    (IsPlain c ∧ escapeChar c = [c]) := by
  unfold escapeChar
  split
  · exact .inl ⟨_, rfl, rfl, by decide⟩
  · exact .inl ⟨_, rfl, rfl, by decide⟩
  · exact .inl ⟨_, rfl, rfl, by decide⟩
  · exact .inl ⟨_, rfl, rfl, by decide⟩
  · exact .inl ⟨_, rfl, rfl, by decide⟩
  · exact .inl ⟨_, rfl, rfl, by decide⟩
  · exact .inl ⟨_, rfl, rfl, by decide⟩
  · -- None of the short escapes applies, in particular the ones for the marks of a literal.
    rename_i hquote hbackslash _ _ _ _ _
    split
    · rename_i hcontrol
      exact .inr (.inl ⟨hcontrol, rfl⟩)
    · rename_i hcontrol
      exact .inr (.inr ⟨⟨hquote, hbackslash, hcontrol⟩, rfl⟩)

theorem unescape_short {c d : Char} (h : shortEscape? d = some c) (cs : List (Option Char)) :
    unescape .plain none (some '\\' :: some d :: cs)
      = (unescape .plain none cs).map (some c :: ·) := by
  unfold shortEscape? at h
  split at h
  case h_9 => exact absurd h (by simp)
  all_goals
    obtain rfl := Option.some.inj h
    rfl

/-- Resolving the escape of a character gives the character. -/
theorem unescape_escapeChar (c : Char) (cs : List (Option Char)) :
    unescape .plain none ((escapeChar c).map some ++ cs)
      = (unescape .plain none cs).map (some c :: ·) := by
  rcases escapeChar_cases c with ⟨d, hd, hshort, -⟩ | ⟨hlt, hd⟩ | ⟨hplain, hd⟩
  · rw [hd]
    exact unescape_short hshort cs
  · rw [hd]
    have hzero : hexDigit? '0' = some 0 := by decide
    have hhigh : hexDigit? (hexChar (c.toNat / 16)) = some (c.toNat / 16) :=
      hexDigit?_hexChar (by omega)
    have hlow : hexDigit? (hexChar (c.toNat % 16)) = some (c.toNat % 16) :=
      hexDigit?_hexChar (by omega)
    have hcode : c.toNat / 16 * 16 + c.toNat % 16 = c.toNat := by omega
    -- A code from `0xd800` on could be half of a surrogate pair, which waits for the other half.
    have hnotHigh : ¬55296 ≤ c.toNat := by omega
    have hnotLow : ¬56320 ≤ c.toNat := by omega
    simp [unescape, unpaired, hzero, hhigh, hlow, hcode, hnotHigh, hnotLow]
  · rw [hd]
    simp [unescape, unpaired, hplain.2.1]

/-- The text literal of a text denotes that text. -/
theorem textLiteral?_escaped (s : String) :
    textLiteral? ((s.toList.flatMap escapeChar).map some) = some (text s) := by
  have hunescape : ∀ cs : List Char,
      unescape .plain none ((cs.flatMap escapeChar).map some) = some (cs.map some) := by
    intro cs
    induction cs with
    | nil => rfl
    | cons c cs ih =>
      rw [List.flatMap_cons, List.map_append, unescape_escapeChar, ih]
      rfl
  have hall : ∀ cs : List Char, allChars? (cs.map some) = some cs := by
    intro cs
    induction cs with
    | nil => rfl
    | cons c cs ih =>
      rw [List.map_cons, allChars?, ih]
      rfl
  unfold textLiteral?
  rw [hunescape, Option.map_some, hall]
  exact congrArg (fun t => some (text t)) (String.ofList_toList ..)

/-- A plain character is read as it is. -/
theorem scanStep_plain {c : Char} (h : IsPlain c) (read : List (Option Char)) :
    scanStep (.inText read false) (some c) = some ([], .inText (some c :: read) false) := by
  obtain ⟨hquote, hbackslash, hcontrol⟩ := h
  simp [scanStep, hcontrol]

/-- Behind a backslash any character is read as it is, apart from control characters. -/
theorem scanStep_escaped {c : Char} (h : 0x20 ≤ c.toNat) (read : List (Option Char)) :
    scanStep (.inText read true) (some c) = some ([], .inText (some c :: read) false) := by
  by_cases hquote : c = '\x22'
  · subst hquote
    rfl
  · by_cases hbackslash : c = '\\'
    · subst hbackslash
      rfl
    · have hcontrol : ¬c.toNat < 0x20 := by omega
      simp [scanStep, hcontrol]

theorem isPlain_hexChar {n : Nat} (h : n < 16) : IsPlain (hexChar n) := by
  have hall : ∀ m : Fin 16, IsPlain (hexChar m) := by decide
  exact hall ⟨n, h⟩

/-- Plain characters are read as they are. -/
theorem scans_plain {cs : List Char} (h : ∀ c ∈ cs, IsPlain c) (read : List (Option Char)) :
    Scans (.inText read false) (cs.map some) []
      (.inText ((cs.map some).reverse ++ read) false) := by
  induction cs generalizing read with
  | nil => exact .nil _
  | cons c cs ih =>
    rw [List.forall_mem_cons] at h
    rw [List.map_cons, List.reverse_cons, List.append_assoc]
    exact .cons (scanStep_plain h.1 read) (ih h.2 (some c :: read))

/-- The escape of a character is kept as it is read, and the literal goes on behind it. -/
theorem scans_escapeChar (c : Char) (read : List (Option Char)) :
    Scans (.inText read false) ((escapeChar c).map some) []
      (.inText (((escapeChar c).map some).reverse ++ read) false) := by
  rcases escapeChar_cases c with ⟨d, hd, -, hcontrol⟩ | ⟨hlt, hd⟩ | ⟨hplain, hd⟩
  · rw [hd]
    have hbackslash : scanStep (.inText read false) (some '\\')
        = some ([], .inText (some '\\' :: read) true) := rfl
    exact .cons hbackslash (.single (scanStep_escaped hcontrol _))
  · rw [hd]
    have hbackslash : scanStep (.inText read false) (some '\\')
        = some ([], .inText (some '\\' :: read) true) := rfl
    have hhigh : IsPlain (hexChar (c.toNat / 16)) := isPlain_hexChar (by omega)
    have hlow : IsPlain (hexChar (c.toNat % 16)) := isPlain_hexChar (by omega)
    have hdigits : ∀ d ∈ ['0', '0', hexChar (c.toNat / 16), hexChar (c.toNat % 16)], IsPlain d := by
      simpa [hhigh, hlow] using (by decide : IsPlain '0')
    exact .cons hbackslash (.cons (scanStep_escaped (by decide) _) (scans_plain hdigits _))
  · rw [hd]
    exact .single (scanStep_plain hplain read)

/-- Escaped characters of a text are read into it. -/
theorem scans_escaped (cs : List Char) (read : List (Option Char)) :
    Scans (.inText read false) ((cs.flatMap escapeChar).map some) []
      (.inText (((cs.flatMap escapeChar).map some).reverse ++ read) false) := by
  induction cs generalizing read with
  | nil => exact .nil _
  | cons c cs ih =>
    rw [List.flatMap_cons, List.map_append, List.reverse_append, List.append_assoc]
    exact (scans_escapeChar c read).append (ih _)

/-- A printed text is one token. -/
theorem scans_printText (s : String) :
    Scans .between ((printText s).map some) [.leaf (text s)] .between := by
  unfold printText
  rw [List.map_cons, List.map_append]
  have hend : scanStep (.inText (((s.toList.flatMap escapeChar).map some).reverse ++ []) false)
      (some '\x22') = some ([.leaf (text s)], .between) := by
    rw [List.append_nil]
    show (textLiteral? (List.reverse _)).map _ = _
    rw [List.reverse_reverse, textLiteral?_escaped]
    rfl
  have hstart : scanStep .between (some '\x22') = some ([], .inText [] false) := rfl
  exact .cons hstart ((scans_escaped s.toList []).append (.single hend))

/-! ## Names and numbers -/

/-- A word ends before what follows. -/
def Delimited : List (Option Char) → Prop
  | [] => True
  | c :: _ => ∃ d, c = some d ∧ isWordChar d = false

/-- Letters of a word are read into it. -/
theorem scans_word {cs : List Char} (h : ∀ c ∈ cs, isWordChar c = true) (read : List Char) :
    Scans (.inWord read) (cs.map some) [] (.inWord (cs.reverse ++ read)) := by
  induction cs generalizing read with
  | nil => exact .nil _
  | cons c cs ih =>
    rw [List.forall_mem_cons] at h
    have hstep : scanStep (.inWord read) (some c) = some ([], .inWord (c :: read)) := by
      simp [scanStep, h.1]
    rw [List.map_cons, List.reverse_cons, List.append_assoc]
    exact .cons hstep (ih h.2 (c :: read))

theorem not_isSpace_of_isWordChar {c : Char} (h : isWordChar c = true) : isSpace c = false := by
  rw [Bool.eq_false_iff]
  intro hspace
  simp only [isSpace, Bool.or_eq_true, beq_iff_eq] at hspace
  rcases hspace with ((rfl | rfl) | rfl) | rfl <;> exact absurd h (by decide)

/-- A word is one token, once it is known where it ends. -/
theorem scanFrom_word {cs : List Char} {v : Json} (hne : cs ≠ [])
    (hword : ∀ c ∈ cs, isWordChar c = true) (hv : word? cs = some v)
    {rest : List (Option Char)} (hrest : Delimited rest) :
    scanFrom .between (cs.map some ++ rest) = (scanFrom .between rest).map ([.leaf v] ++ ·) := by
  obtain ⟨c, cs, rfl⟩ := List.exists_cons_of_ne_nil hne
  rw [List.forall_mem_cons] at hword
  have hstart : scanStep .between (some c) = some ([], .inWord [c]) := by
    simp [scanStep, scanFresh, hword.1, not_isSpace_of_isWordChar hword.1]
  have hscan : Scans .between ((c :: cs).map some) [] (.inWord (cs.reverse ++ [c])) :=
    .cons hstart (scans_word hword.2 [c])
  have hread : word? (cs.reverse ++ [c]).reverse = some v := by
    rw [List.reverse_append, List.reverse_reverse]
    exact hv
  rw [hscan rest]
  -- A word ends with the text, or with a character that then starts something new.
  cases rest with
  | nil =>
    show Option.map _ ((word? (cs.reverse ++ [c]).reverse).map fun v => [Token.leaf v]) = _
    rw [hread]
    rfl
  | cons d rest =>
    obtain ⟨d, rfl, hd⟩ := hrest
    have hstep : scanStep (.inWord (cs.reverse ++ [c])) (some d)
        = (scanFresh d).map fun p => (.leaf v :: p.1, p.2) := by
      simp only [scanStep, hd, hread]
      rcases scanFresh d with _ | ⟨ts, next⟩ <;> rfl
    have hfresh : scanStep .between (some d) = scanFresh d := rfl
    rw [scanFrom, scanFrom, hstep, hfresh]
    rcases scanFresh d with _ | ⟨ts, next⟩
    · rfl
    · show Option.map _ ((scanFrom next rest).bind _) = Option.map _ ((scanFrom next rest).bind _)
      cases scanFrom next rest <;> rfl

theorem isDigit_of_mem_toDigits {n : Nat} {c : Char} (h : c ∈ Nat.toDigits 10 n) :
    c.isDigit = true :=
  Nat.isDigit_of_mem_toDigits (by decide) (by decide) h

/-- Digits belong to words. -/
theorem isWordChar_of_isDigit {c : Char} (h : c.isDigit = true) : isWordChar c = true := by
  have hrange : ('0' ≤ c && c ≤ '9') = true := h
  unfold isWordChar
  rw [hrange]
  simp

/-- The digits of a number denote it. -/
theorem ofDigits_toDigits (n : Nat) : ofDigits (Nat.toDigits 10 n) = n := by
  have h := Nat.ofDigitChars_ten_toDigits (n := n)
  rw [Nat.ofDigitChars_eq_foldl] at h
  simp only [Nat.mul_comm 10] at h
  exact h

/-- The digits of a number start with zero only if it is zero. -/
theorem eq_zero_of_head?_toDigits {n : Nat} (h : (Nat.toDigits 10 n).head? = some '0') :
    n = 0 := by
  -- The first digit is that of the number without its last one.
  induction n using Nat.strongRecOn with
  | ind n ih =>
    rw [Nat.toDigits_eq_if (by decide)] at h
    split at h
    · rename_i hlt
      have hall : ∀ m : Fin 10, Nat.digitChar m = '0' → m.val = 0 := by decide
      exact hall ⟨n, hlt⟩ (Option.some.inj h)
    · rename_i hge
      rcases hhead : (Nat.toDigits 10 (n / 10)).head? with _ | c
      · exact absurd (List.head?_eq_none_iff.mp hhead) Nat.toDigits_ne_nil
      · rw [List.head?_append, hhead, Option.some_or] at h
        have hzero : n / 10 = 0 := ih (n / 10) (by omega) (hhead.trans h)
        omega

/-- A number in base 10 is read as itself. -/
theorem unsignedNumber?_toDigits (negative : Bool) (n : Nat) :
    unsignedNumber? negative (Nat.toDigits 10 n) = some (integer negative n) := by
  have hdigit : ∀ c ∈ Nat.toDigits 10 n, c.isDigit = true := fun _ => isDigit_of_mem_toDigits
  have hspan : spanDigits (Nat.toDigits 10 n) = (Nat.toDigits 10 n, []) := by
    unfold spanDigits
    rw [List.takeWhile_eq_self_iff.mpr hdigit, List.dropWhile_eq_nil_iff.mpr hdigit]
  have hzero : ((Nat.toDigits 10 n).head? == some '0' && (Nat.toDigits 10 n).length > 1)
      = false := by
    rw [Bool.and_eq_false_iff]
    by_cases hhead : (Nat.toDigits 10 n).head? = some '0'
    · rw [eq_zero_of_head?_toDigits hhead]
      exact .inr (by decide)
    · exact .inl (by simpa using hhead)
  have hempty : (Nat.toDigits 10 n).isEmpty = false := by
    rw [Bool.eq_false_iff, ne_eq, List.isEmpty_iff]
    exact Nat.toDigits_ne_nil
  unfold unsignedNumber?
  rw [hspan]
  simp [hempty, hzero, fraction?, exponent?, ofDigits_toDigits]

/-- A word that starts with a digit is a number without sign. -/
theorem word?_of_isDigit {c : Char} (h : c.isDigit = true) (cs : List Char) :
    word? (c :: cs) = unsignedNumber? false (c :: cs) := by
  have hne : ∀ d : Char, d.isDigit = false → c ≠ d := by
    rintro d hd rfl
    exact absurd (h.symm.trans hd) (by decide)
  have hn := hne 'n' (by decide)
  have ht := hne 't' (by decide)
  have hf := hne 'f' (by decide)
  have hminus := hne '-' (by decide)
  simp [word?, hn, ht, hf, hminus]

/-- The digits of an integer are a word for it, as long as it is one that is kept. -/
theorem word?_printInt {n : Int} (hlow : -0x8000000000000000 ≤ n)
    (hhigh : n < 0x10000000000000000) :
    word? (printInt n) = some (int n) := by
  unfold printInt
  split
  · rename_i hneg
    show unsignedNumber? true (Nat.toDigits 10 n.natAbs) = _
    have hzero : n.natAbs ≠ 0 := by omega
    have hbound : ¬n.natAbs > Nat.pow 2 63 := by
      show ¬n.natAbs > 2 ^ 63
      omega
    have habs : -(n.natAbs : Int) = n := by omega
    rw [unsignedNumber?_toDigits, integer, if_pos rfl]
    simp only [hzero, hbound, decide_false, Bool.or_self, Bool.false_eq_true, if_false, habs]
  · rename_i hneg
    have hdigit : ∀ c ∈ Nat.toDigits 10 n.natAbs, c.isDigit = true :=
      fun _ => isDigit_of_mem_toDigits
    have hbound : n.natAbs < Nat.pow 2 64 := by
      show n.natAbs < 2 ^ 64
      omega
    have habs : (n.natAbs : Int) = n := by omega
    obtain ⟨c, cs, hcs⟩ :=
      List.exists_cons_of_ne_nil (Nat.toDigits_ne_nil (n := n.natAbs) (b := 10))
    rw [hcs] at hdigit
    rw [hcs, word?_of_isDigit (hdigit c List.mem_cons_self), ← hcs, unsignedNumber?_toDigits,
      integer, if_neg Bool.false_ne_true, if_pos hbound, habs]

/-- A printed integer is one token. -/
theorem scanFrom_printInt {n : Int} (hlow : -0x8000000000000000 ≤ n)
    (hhigh : n < 0x10000000000000000) {rest : List (Option Char)} (hrest : Delimited rest) :
    scanFrom .between ((printInt n).map some ++ rest)
      = (scanFrom .between rest).map ([.leaf (int n)] ++ ·) := by
  have hdigit : ∀ c ∈ Nat.toDigits 10 n.natAbs, isWordChar c = true :=
    fun _ hc => isWordChar_of_isDigit (isDigit_of_mem_toDigits hc)
  refine scanFrom_word ?_ ?_ (word?_printInt hlow hhigh) hrest
  · unfold printInt
    split
    · exact List.cons_ne_nil _ _
    · exact Nat.toDigits_ne_nil
  · unfold printInt
    split
    · exact List.forall_mem_cons.mpr ⟨by decide, hdigit⟩
    · exact hdigit

/-! ## Values -/

theorem delimited_cons {c : Char} (h : isWordChar c = false) (rest : List (Option Char)) :
    Delimited (some c :: rest) :=
  ⟨c, rfl, h⟩

/-- The text of the value is cut into its tokens, wherever it is known to end. -/
def IsCut (v : Json) : Prop :=
  ∀ rest, Delimited rest → scanFrom .between ((printChars v).map some ++ rest)
    = (scanFrom .between rest).map (tokens v ++ ·)

/-- A mark ends a value. -/
theorem IsCut.append {v : Json} (hv : IsCut v) {c : Char} {cs : List Char} {ts : List Token}
    {st : Scan} (hc : isWordChar c = false) (h : Scans .between ((c :: cs).map some) ts st) :
    Scans .between ((printChars v ++ c :: cs).map some) (tokens v ++ ts) st := by
  intro rest
  have hrest : Delimited ((c :: cs).map some ++ rest) := delimited_cons hc _
  rw [List.map_append, List.append_assoc, hv _ hrest, h rest, map_append_map_append]

/-- The items of an array are read one by one. -/
theorem scans_printItems {items : List Json} (h : ∀ v ∈ items, IsCut v) :
    Scans .between ((printItems items).map some) (itemTokens items) .between := by
  induction items with
  | nil => exact .single rfl
  | cons v vs ih =>
    rw [List.forall_mem_cons] at h
    rcases vs with _ | ⟨w, vs⟩
    · exact h.1.append (by decide) (.single rfl)
    · exact h.1.append (by decide) (.token rfl (ih h.2))

/-- The members of an object are read one by one. -/
theorem scans_printMembers {members : List (String × Json)} (h : ∀ m ∈ members, IsCut m.2) :
    Scans .between ((printMembers members).map some) (memberTokens members) .between := by
  induction members with
  | nil => exact .single rfl
  | cons m ms ih =>
    obtain ⟨k, v⟩ := m
    rw [List.forall_mem_cons] at h
    rcases ms with _ | ⟨m, ms⟩
    · have hvalue : Scans .between ((printChars v ++ ['\x7d']).map some)
          (tokens v ++ [.closeObject]) .between :=
        h.1.append (by decide) (.single rfl)
      show Scans _ ((printText k ++ ':' :: (printChars v ++ ['\x7d'])).map some) _ _
      rw [List.map_append]
      exact (scans_printText k).append (.token rfl hvalue)
    · have hvalue : Scans .between ((printChars v ++ ',' :: printMembers (m :: ms)).map some)
          (tokens v ++ .comma :: memberTokens (m :: ms)) .between :=
        h.1.append (by decide) (.token rfl (ih h.2))
      show Scans _
        ((printText k ++ ':' :: (printChars v ++ ',' :: printMembers (m :: ms))).map some) _ _
      rw [List.map_append]
      exact (scans_printText k).append (.token rfl hvalue)

/-- A printed value is cut into its tokens. -/
theorem scanFrom_printChars {v : Json} (hv : IsExact v) : IsCut v := by
  induction hv with
  | null => exact fun _ => scanFrom_word (by decide) (List.all_eq_true.mp rfl) rfl
  | bool b => cases b <;> exact fun _ => scanFrom_word (by decide) (List.all_eq_true.mp rfl) rfl
  | int hlow hhigh => exact fun _ => scanFrom_printInt hlow hhigh
  | text s => exact fun rest _ => scans_printText s rest
  | array _ ih => exact fun rest _ => (Scans.token rfl (scans_printItems ih)) rest
  | object _ ih => exact fun rest _ => (Scans.token rfl (scans_printMembers ih)) rest

end UaaAdmin.Json
