import UaaAdmin.Proofs.NumberHosts
import UaaAdmin.Proofs.Utf8

/-!
# What reading makes of a host

A host that was read is proper (`isProper_of_domainHost?`): a settled name that does not end in a
number, or a number in range. Written down, a proper host is read as itself, unless a label of it
stands behind the mark and is refused (`domainHost?_print`): a long label can be written behind the
mark whose written form is too long to be read.

With more text and a full stop in front of it, the written form of a name is still a name, which
ends in a full stop and that name (`domainHost?_append_name`); the written form of a number is no
host at all (`domainHost?_append_ipv4`, `domainHost?_append_bracket`). With a blank behind it,
nothing is a host (`visible_of_domainHost?`).
-/

namespace UaaAdmin

/-! ## Text around a character that stands alone -/

namespace Text.Percent

/-- The character is plain, and no part of an encoded byte. -/
structure StandsAlone (c : Char) : Prop where
  plain : c.toNat < 0x80
  noPercent : c ≠ '%'
  noDigit : digit? c = none

/-- A full stop stands alone. -/
theorem standsAlone_stop : StandsAlone '.' :=
  ⟨by decide, by decide, by decide⟩

/-- A plain character is one byte. -/
theorem utf8EncodeChar_plain {c : Char} (h : c.toNat < 0x80) :
    String.utf8EncodeChar c = [UInt8.ofNat c.toNat] := by
  have hn : (UInt8.ofNat c.toNat).toNat = c.toNat := by
    rw [UInt8.toNat_ofNat']
    exact Nat.mod_eq_of_lt (by omega)
  have hb := utf8EncodeChar_ofNat (b := UInt8.ofNat c.toNat) (by rwa [hn])
  rwa [hn, Char.ofNat_toNat] at hb

/-- A character that stands alone is no digit of an encoded byte. -/
theorem pair?_append_alone {mark : Char} (hmark : StandsAlone mark) (cs ds : List Char) :
    pair? (cs ++ mark :: ds) = pair? cs := by
  match cs with
  | [] =>
    cases ds with
    | nil => rfl
    | cons d ds => simp [pair?, hmark.noDigit]
  | [c] =>
    show (do return (← digit? c) * 16 + (← digit? mark)) = none
    cases digit? c <;> simp [hmark.noDigit]
  | c :: d :: cs => rfl

/-- An encoded byte takes two digits. -/
theorem two_le_length_of_pair? {cs : List Char} {n : Nat} (h : pair? cs = some n) :
    2 ≤ cs.length := by
  match cs with
  | [] => cases h
  | [c] => cases h
  | c :: d :: cs => exact Nat.le_add_left 2 cs.length

/-- Such a character is its own byte, and no encoded byte goes across it. -/
theorem decodeAfter_append_alone {mark : Char} (hmark : StandsAlone mark) {skip : Nat}
    {cs : List Char} (h : skip ≤ cs.length) (ds : List Char) :
    decodeAfter skip (cs ++ mark :: ds)
      = decodeAfter skip cs ++ UInt8.ofNat mark.toNat :: decodeAfter 0 ds := by
  fun_induction decodeAfter skip cs with
  | case1 skip =>
    obtain rfl := Nat.le_zero.1 h
    rw [List.nil_append, decodeAfter, if_neg hmark.noPercent, utf8EncodeChar_plain hmark.plain]
    rfl
  | case2 skip c cs ih => exact ih (Nat.le_of_succ_le_succ h)
  | case3 c cs n hpair ih =>
    split at hpair
    · rename_i hc
      have hcs := two_le_length_of_pair? hpair
      rw [List.cons_append, decodeAfter, if_pos hc, pair?_append_alone hmark, hpair]
      dsimp only
      rw [ih hcs]
      rfl
    · cases hpair
  | case4 c cs hpair ih =>
    have hpair : (if c = '%' then pair? (cs ++ mark :: ds) else none) = none := by
      rw [pair?_append_alone hmark]
      exact hpair
    rw [List.cons_append, decodeAfter, hpair]
    dsimp only
    rw [ih (Nat.zero_le _), List.append_assoc]

/-- Without percent signs nothing is decoded. -/
theorem decode_of_no_percent {cs : List Char} (h : '%' ∉ cs) :
    decode cs = cs.flatMap String.utf8EncodeChar := by
  induction cs with
  | nil => rfl
  | cons c cs ih =>
    obtain ⟨hc, hcs⟩ := List.ne_and_not_mem_of_not_mem_cons h
    have ih := ih hcs
    unfold decode at ih ⊢
    rw [decodeAfter, if_neg (Ne.symm hc), List.flatMap_cons, ih]

end Text.Percent

namespace Text.Utf8

/-- What follows the bytes that are read is no plain character. -/
def Pending.IsOpen (p : Pending) : Prop :=
  0x80 ≤ p.low

/-- A byte that starts afresh waits for no plain character. -/
theorem isOpen_of_start {b : Nat} {p : Pending} (h : (start b).2 = some p) : p.IsOpen := by
  unfold start at h
  repeat' split at h
  all_goals cases h <;> simp [Pending.IsOpen]

/-- A byte behind others waits for no plain character either. -/
theorem isOpen_of_advance {pending : Option Pending} {b : Nat} {p : Pending}
    (h : (advance pending b).2 = some p) : p.IsOpen := by
  unfold advance at h
  split at h
  · exact isOpen_of_start h
  · dsimp only at h
    split at h
    · split at h
      · cases h
      · cases h
        exact Nat.le_refl _
    · exact isOpen_of_start h

/-- A plain character breaks off what is under way, and is read as itself. -/
theorem advance_plain {pending : Option Pending} {b : Nat} (hb : b < 0x80)
    (h : ∀ p, pending = some p → p.IsOpen) (rest : List (Option Char)) :
    (advance pending b).1 ++ rest
        = (if pending.isSome then [none] else []) ++ some (Char.ofNat b) :: rest ∧
      (advance pending b).2 = none := by
  have hstart : start b = ([some (Char.ofNat b)], none) := if_pos hb
  cases pending with
  | none => rw [advance, hstart]; exact ⟨rfl, rfl⟩
  | some p =>
    have hlow : 0x80 ≤ p.low := h p rfl
    have hout : ¬p.low ≤ b := by omega
    simp [advance, hout, hstart]

/-- A plain character is read as itself, and ends what was under way. -/
theorem decodeFrom_append_plain {pending : Option Pending} {b : UInt8} (hb : b.toNat < 0x80)
    (h : ∀ p, pending = some p → p.IsOpen) (bs rest : List UInt8) :
    decodeFrom pending (bs ++ b :: rest)
      = decodeFrom pending bs ++ some (Char.ofNat b.toNat) :: decodeFrom none rest := by
  induction bs generalizing pending with
  | nil =>
    obtain ⟨hout, hnext⟩ := advance_plain hb h (decodeFrom none rest)
    show (advance pending b.toNat).1 ++ decodeFrom (advance pending b.toNat).2 rest = _
    rw [hnext, hout]
    rfl
  | cons c bs ih =>
    rw [List.cons_append, decodeFrom, decodeFrom, ih fun p hp => isOpen_of_advance hp,
      List.append_assoc]

/-- The bytes of some characters are read as these characters. -/
theorem decode_encodeChars (cs : List Char) :
    decode (cs.flatMap String.utf8EncodeChar) = cs.map some := by
  have h := decode_encode (String.ofList cs)
  rwa [encode, String.toList_ofList] at h

end Text.Utf8

namespace Url

open Text

/-- Decoding goes on separately on both sides of a character that stands alone. -/
theorem resolve_append_alone {mark : Char} (hmark : Percent.StandsAlone mark) (cs ds : List Char) :
    Utf8.decode (Percent.decode (cs ++ mark :: ds))
      = Utf8.decode (Percent.decode cs) ++ some mark :: Utf8.decode (Percent.decode ds) := by
  have hbyte : (UInt8.ofNat mark.toNat).toNat = mark.toNat := by
    rw [UInt8.toNat_ofNat']
    exact Nat.mod_eq_of_lt (Nat.lt_trans hmark.plain (by decide))
  have hopen : ∀ p, (none : Option Utf8.Pending) = some p → p.IsOpen := fun p hp => by cases hp
  have hdecode := Utf8.decodeFrom_append_plain (by rw [hbyte]; exact hmark.plain) hopen
    (Percent.decodeAfter 0 cs) (Percent.decodeAfter 0 ds)
  rw [hbyte, Char.ofNat_toNat] at hdecode
  rw [Percent.decode, Percent.decodeAfter_append_alone hmark (Nat.zero_le _)]
  exact hdecode

/-- Text without percent signs is typed as it is. -/
theorem resolve_of_no_percent {cs : List Char} (h : '%' ∉ cs) :
    Utf8.decode (Percent.decode cs) = cs.map some := by
  rw [Percent.decode_of_no_percent h, Utf8.decode_encodeChars]

/-- Characters that are all there are there as a whole. -/
theorem mapM_id_map_some (cs : List Char) : (cs.map some).mapM id = some cs := by
  induction cs with
  | nil => rfl
  | cons c cs ih => simp [ih]

/-- What is typed without percent signs stays behind a character that stands alone. -/
theorem resolve_append {mark : Char} (hmark : Percent.StandsAlone mark) {cs ds typed : List Char}
    (hds : '%' ∉ ds) (h : (Utf8.decode (Percent.decode (cs ++ mark :: ds))).mapM id = some typed) :
    ∃ front, typed = front ++ mark :: ds := by
  rw [resolve_append_alone hmark, resolve_of_no_percent hds, ← List.map_cons (f := some),
    List.mapM_append, mapM_id_map_some] at h
  simp only [Option.pure_def, Option.bind_eq_bind, Option.bind_some] at h
  obtain ⟨front, -, h⟩ := Option.bind_eq_some_iff.1 h
  exact ⟨front, (Option.some.inj h).symm⟩

/-! ## What is read -/

/-- The host is one that reading gives: a settled name that does not end in a number, or a number in
range. -/
def Host.IsProper : Host → Prop
  | name text =>
    text ≠ "" ∧ (∀ c ∈ text.toList, Domain.IsSettled c) ∧ endsInNumber text.toList = false
  | ipv4 n => n < 4294967296
  | ipv6 ns => ns.length = 8 ∧ ∀ n ∈ ns, n < 65536

/-- The host is a name with a label behind the mark. -/
def Host.IsCoded : Host → Prop
  | name text => ∃ label ∈ text.toList.splitOn '.', Domain.codedMark.isPrefixOf label = true
  | _ => False

/-- How a host is read: a number in square brackets, or the plain form of what is typed, which is a
number if it ends in one. -/
inductive ReadsAs (cs : List Char) : Host → Prop
  | bracket (inner : List Char) (ns : List Nat) (text : cs = '[' :: (inner ++ [']']))
      (number : ipv6? inner = some ns) : ReadsAs cs (.ipv6 ns)
  | number (typed plain : List Char) (n : Nat) (start : cs.head? ≠ some '[')
      (resolved : (Utf8.decode (Percent.decode cs)).mapM id = some typed)
      (folded : Domain.plain? typed = some plain) (last : endsInNumber plain = true)
      (number : ipv4? plain = some n) : ReadsAs cs (.ipv4 n)
  | name (typed plain : List Char) (start : cs.head? ≠ some '[')
      (resolved : (Utf8.decode (Percent.decode cs)).mapM id = some typed)
      (folded : Domain.plain? typed = some plain) (filled : plain ≠ [])
      (last : endsInNumber plain = false) : ReadsAs cs (.name (String.ofList plain))

/-- A text from an opening to a closing bracket has something between the two. -/
theorem eq_bracketed {cs : List Char} (hhead : cs.head? = some '[')
    (hlast : cs.getLast? = some ']') : cs = '[' :: ((cs.drop 1).dropLast ++ [']']) := by
  obtain ⟨rest, rfl⟩ : ∃ rest, cs = '[' :: rest := by
    cases cs with
    | nil => cases hhead
    | cons c rest => exact ⟨rest, congrArg (· :: rest) (Option.some.inj hhead)⟩
  rw [List.drop_succ_cons, List.drop_zero]
  rcases List.eq_nil_or_concat rest with rfl | ⟨inner, c, rfl⟩
  · exact absurd hlast (by decide)
  · rw [List.concat_eq_append, ← List.cons_append, List.getLast?_concat] at hlast
    rw [List.concat_eq_append, List.dropLast_concat, Option.some.inj hlast]

/-- What is read as a host is read in one of these ways. -/
theorem readsAs_of_domainHost? {cs : List Char} {h : Host} (hread : domainHost? cs = .ok h) :
    ReadsAs cs h := by
  -- In brackets there is a number of version 6; all else is decoded and mapped first.
  unfold domainHost? at hread
  split at hread
  · rename_i hhead
    unfold bracketHost? at hread
    split at hread
    · rename_i hlast
      split at hread
      · rename_i ns hns
        cases hread
        exact .bracket _ ns (eq_bracketed hhead hlast) hns
      · cases hread
    · cases hread
  · rename_i hhead
    split at hread
    · cases hread
    · rename_i typed htyped
      split at hread
      · cases hread
      · rename_i plain hplain
        split at hread
        · cases hread
        · rename_i hfilled
          split at hread
          · rename_i hlast
            split at hread
            · rename_i n hn
              cases hread
              exact .number typed plain n hhead htyped hplain hlast hn
            · cases hread
          · rename_i hlast
            cases hread
            refine .name typed plain hhead htyped hplain ?_ (Bool.eq_false_iff.2 hlast)
            rintro rfl
            exact hfilled rfl

/-- What is read is a proper host. -/
theorem isProper_of_domainHost? {cs : List Char} {h : Host} (hread : domainHost? cs = .ok h) :
    h.IsProper := by
  cases readsAs_of_domainHost? hread with
  | bracket inner ns text number =>
    obtain ⟨hcount, hless, -⟩ := ipv6?_bounds number
    exact ⟨hcount, hless⟩
  | number typed plain n start resolved folded last number => exact ipv4?_lt number
  | name typed plain start resolved folded filled last =>
    refine ⟨?_, ?_, ?_⟩
    · intro h
      exact filled (by rw [← String.toList_ofList (l := plain), h]; rfl)
    · rw [String.toList_ofList]
      exact Domain.settled_of_plain? folded
    · rw [String.toList_ofList]
      exact last

/-! ## Reading what was written -/

/-- What is not allowed does not stand in a settled text. -/
theorem not_mem_of_settled {mark : Char} (hmark : Domain.isForbidden mark = true) {cs : List Char}
    (h : ∀ c ∈ cs, Domain.IsSettled c) : mark ∉ cs := by
  intro hc
  have hallowed := (h mark hc).allowed
  rw [hmark] at hallowed
  cases hallowed

/-- A settled text is not read as a number in brackets. -/
theorem head?_of_settled {cs : List Char} (h : ∀ c ∈ cs, Domain.IsSettled c) :
    cs.head? ≠ some '[' :=
  fun hhead => not_mem_of_settled (by decide) h (List.mem_of_head? hhead)

/-- Settled characters stand for themselves. -/
theorem resolve_settled {cs : List Char} (h : ∀ c ∈ cs, Domain.IsSettled c) :
    (Utf8.decode (Percent.decode cs)).mapM id = some cs := by
  rw [resolve_of_no_percent (not_mem_of_settled (by decide) h), mapM_id_map_some]

/-- A settled text without a plain form is refused as a name. -/
theorem domainHost?_of_refused {cs : List Char} (h : ∀ c ∈ cs, Domain.IsSettled c)
    (hplain : Domain.plain? cs = none) : domainHost? cs = .error .badDomain := by
  rw [domainHost?, if_neg (head?_of_settled h), resolve_settled h]
  dsimp only
  rw [hplain]

/-- A settled text that is its own plain form is a name, if it does not end in a number. -/
theorem domainHost?_of_name {cs : List Char} (h : ∀ c ∈ cs, Domain.IsSettled c)
    (hplain : Domain.plain? cs = some cs) (hne : cs ≠ []) (hlast : endsInNumber cs = false) :
    domainHost? cs = .ok (.name (String.ofList cs)) := by
  have hfilled : cs.isEmpty = false := List.isEmpty_eq_false_iff.2 hne
  rw [domainHost?, if_neg (head?_of_settled h), resolve_settled h]
  dsimp only
  rw [hplain]
  simp [hfilled, hlast]

/-- A settled text that is its own plain form and ends in a number is read as one of version 4. -/
theorem domainHost?_of_ipv4 {cs : List Char} {n : Nat} (h : ∀ c ∈ cs, Domain.IsSettled c)
    (hplain : Domain.plain? cs = some cs) (hne : cs ≠ []) (hlast : endsInNumber cs = true)
    (hn : ipv4? cs = some n) : domainHost? cs = .ok (.ipv4 n) := by
  have hfilled : cs.isEmpty = false := List.isEmpty_eq_false_iff.2 hne
  rw [domainHost?, if_neg (head?_of_settled h), resolve_settled h]
  dsimp only
  rw [hplain]
  simp [hfilled, hlast, hn]

/-- A settled text is its own plain form if no label of it stands behind the mark. -/
theorem plain?_of_not_coded {cs : List Char} (h : ∀ c ∈ cs, Domain.IsSettled c)
    (hcoded : ∀ label ∈ cs.splitOn '.', Domain.codedMark.isPrefixOf label = false) :
    Domain.plain? cs = some cs := by
  have hsmall := Domain.map_toLower_of_settled h
  have hall : ∀ c ∈ cs, c.toNat < 0x80 := fun c hc => (h c hc).plain
  have hplain := Domain.plain?_ascii hall
  rw [hsmall] at hplain
  exact hplain (List.any_eq_false.2 fun c hc => by simp [(h c hc).allowed]) hcoded

/-- Digits are settled. -/
theorem settled_of_digit {c : Char} (h : c.isDigit = true) : Domain.IsSettled c := by
  have hall : ∀ n : Fin 10, Domain.IsSettled (Char.ofNat (n + 48)) := by decide +kernel
  have hrange : ('0' ≤ c && c ≤ '9') = true := h
  simp only [Bool.and_eq_true, decide_eq_true_eq] at hrange
  have hlow : 48 ≤ c.toNat := hrange.1
  have hhigh : c.toNat ≤ 57 := hrange.2
  have hc := hall ⟨c.toNat - 48, by omega⟩
  rwa [Nat.sub_add_cancel hlow, Char.ofNat_toNat] at hc

/-- The bytes of a number of version 4 are written in digits. -/
theorem isDigit_of_mem_bytes {n : Nat} {part : List Char} {c : Char}
    (hpart : part ∈ (bytesOf n).map (Nat.toDigits 10)) (hc : c ∈ part) : c.isDigit = true := by
  obtain ⟨b, -, rfl⟩ := List.mem_map.1 hpart
  exact Nat.isDigit_of_mem_toDigits (by decide) (by decide) hc

/-- A number of version 4 is written with settled characters. -/
theorem settled_printIpv4 (n : Nat) : ∀ c ∈ (printIpv4 n).toList, Domain.IsSettled c := by
  intro c hc
  rw [toList_printIpv4] at hc
  rcases Domain.mem_intercalate hc with rfl | ⟨part, hpart, hc⟩
  · decide
  · exact settled_of_digit (isDigit_of_mem_bytes hpart hc)

/-- No number of version 4 is written as nothing. -/
theorem printIpv4_ne_nil (n : Nat) : (printIpv4 n).toList ≠ [] := fun hnil => by
  have hlast := endsInNumber_printIpv4 n
  rw [hnil] at hlast
  exact absurd hlast (by decide)

/-- A written number of version 4 is read as itself. -/
theorem domainHost?_printIpv4 {n : Nat} (h : n < 4294967296) :
    domainHost? (printIpv4 n).toList = .ok (.ipv4 n) := by
  -- A label of digits does not begin with a letter, as the mark does.
  have hcoded : ∀ label ∈ (printIpv4 n).toList.splitOn '.',
      Domain.codedMark.isPrefixOf label = false := by
    rw [splitOn_printIpv4]
    intro label hlabel
    cases label with
    | nil => rfl
    | cons c label =>
      have hc := isDigit_of_mem_bytes hlabel List.mem_cons_self
      have hx : ('x' == c) = false := beq_false_of_ne fun hx => by
        rw [← hx] at hc
        exact absurd hc (by decide)
      show ('x' == c && _) = false
      rw [hx, Bool.false_and]
  exact domainHost?_of_ipv4 (settled_printIpv4 n)
    (plain?_of_not_coded (settled_printIpv4 n) hcoded) (printIpv4_ne_nil n)
    (endsInNumber_printIpv4 n) (ipv4?_print h)

/-- A number of version 6 in square brackets is read as itself. -/
theorem domainHost?_printIpv6 {ns : List Nat} (hcount : ns.length = 8)
    (hless : ∀ n ∈ ns, n < 65536) :
    domainHost? ('[' :: ((printIpv6 ns).toList ++ [']'])) = .ok (.ipv6 ns) := by
  have hlast : ('[' :: ((printIpv6 ns).toList ++ [']'])).getLast? = some ']' := by
    rw [← List.cons_append, List.getLast?_concat]
  rw [domainHost?, if_pos List.head?_cons, bracketHost?, if_pos hlast, List.drop_succ_cons,
    List.drop_zero, List.dropLast_concat, ipv6?_print hcount hless]

/-- A name is read as itself, unless a label of it behind the mark is refused. -/
theorem domainHost?_name {text : String} (hproper : (Host.name text).IsProper) :
    domainHost? text.toList = .ok (.name text) ∨
      domainHost? text.toList = .error .badDomain ∧ (Host.name text).IsCoded := by
  obtain ⟨hne, hsettled, hlast⟩ := hproper
  have hfilled : text.toList ≠ [] := by rwa [ne_eq, String.toList_eq_nil_iff]
  cases hplain : Domain.plain? text.toList with
  | none =>
    refine .inr ⟨domainHost?_of_refused hsettled hplain, ?_⟩
    by_contra hcoded
    simp only [Host.IsCoded, not_exists, not_and, Bool.not_eq_true] at hcoded
    rw [plain?_of_not_coded hsettled hcoded] at hplain
    cases hplain
  | some plain =>
    obtain rfl := Domain.plain?_settled hsettled hplain
    left
    rw [domainHost?_of_name hsettled hplain hfilled hlast, String.ofList_toList]

/-- A proper host is read as itself; only a label behind the mark can be refused. -/
theorem domainHost?_print {h : Host} (hproper : h.IsProper) :
    domainHost? h.print.toList = .ok h ∨
      domainHost? h.print.toList = .error .badDomain ∧ h.IsCoded := by
  cases h with
  | name text => exact domainHost?_name hproper
  | ipv4 n => exact .inl (domainHost?_printIpv4 hproper)
  | ipv6 ns =>
    left
    have htext : (Host.ipv6 ns).print.toList = '[' :: ((printIpv6 ns).toList ++ [']']) := by
      simp [Host.print]
    rw [htext, domainHost?_printIpv6 hproper.1 hproper.2]

/-! ## More text in front of a host -/

/-- Behind a full stop, a settled text closes no bracket. -/
theorem getLast?_ne_of_settled {cs ds : List Char} (hds : ∀ c ∈ ds, Domain.IsSettled c)
    (hne : ds ≠ []) : (cs ++ '.' :: ds).getLast? ≠ some ']' := by
  intro hlast
  rw [List.append_cons, List.getLast?_append_of_ne_nil _ hne] at hlast
  exact not_mem_of_settled (by decide) hds (List.mem_of_getLast? hlast)

/-- Behind a full stop and a settled text there is no number in brackets. -/
theorem not_bracketed_of_settled {cs ds inner : List Char} (hds : ∀ c ∈ ds, Domain.IsSettled c)
    (hne : ds ≠ []) : cs ++ '.' :: ds ≠ '[' :: (inner ++ [']']) := fun h =>
  getLast?_ne_of_settled hds hne (by rw [h, ← List.cons_append, List.getLast?_concat])

/-- The plain form of a name with a settled one behind it. -/
theorem exists_plain_append {cs ds typed plain : List Char} (hds : ∀ c ∈ ds, Domain.IsSettled c)
    (hresolved : (Utf8.decode (Percent.decode (cs ++ '.' :: ds))).mapM id = some typed)
    (hfolded : Domain.plain? typed = some plain) : ∃ front, plain = front ++ '.' :: ds := by
  obtain ⟨front, rfl⟩ :=
    resolve_append Percent.standsAlone_stop (not_mem_of_settled (by decide) hds) hresolved
  exact Domain.plain?_append_settled hds hfolded

/-- In front of a name there is more of a name. -/
theorem domainHost?_append_name {cs : List Char} {text : String} {h : Host}
    (hproper : (Host.name text).IsProper) (hread : domainHost? (cs ++ '.' :: text.toList) = .ok h) :
    ∃ front, h = .name (front ++ "." ++ text) := by
  obtain ⟨hne, hsettled, hlast⟩ := hproper
  have hfilled : text.toList ≠ [] := by rwa [ne_eq, String.toList_eq_nil_iff]
  cases readsAs_of_domainHost? hread with
  | bracket inner ns htext number => exact absurd htext (not_bracketed_of_settled hsettled hfilled)
  | number typed plain n start resolved folded last number =>
    obtain ⟨front, rfl⟩ := exists_plain_append hsettled resolved folded
    rw [endsInNumber_append _ hfilled, hlast] at last
    cases last
  | name typed plain start resolved folded filled last =>
    obtain ⟨front, rfl⟩ := exists_plain_append hsettled resolved folded
    refine ⟨String.ofList front, congrArg Host.name (String.toList_inj.1 ?_)⟩
    simp

/-- In front of a number of version 4 nothing can stand. -/
theorem domainHost?_append_ipv4 {cs : List Char} {n : Nat} {h : Host} :
    domainHost? (cs ++ '.' :: (printIpv4 n).toList) ≠ .ok h := by
  intro hread
  have hsettled := settled_printIpv4 n
  have hne := printIpv4_ne_nil n
  cases readsAs_of_domainHost? hread with
  | bracket inner ns htext number => exact not_bracketed_of_settled hsettled hne htext
  | number typed plain m start resolved folded last number =>
    obtain ⟨front, rfl⟩ := exists_plain_append hsettled resolved folded
    rw [ipv4?_append_print] at number
    cases number
  | name typed plain start resolved folded filled last =>
    obtain ⟨front, rfl⟩ := exists_plain_append hsettled resolved folded
    rw [endsInNumber_append _ hne, endsInNumber_printIpv4] at last
    cases last

/-- No number of version 6 has an opening bracket in it. -/
theorem bracket_not_in_number {inner : List Char} {ns : List Nat} (h : ipv6? inner = some ns) :
    '[' ∉ inner := by
  intro hmem
  obtain ⟨-, -, hall⟩ := ipv6?_bounds h
  rcases hall _ hmem with h | h | h <;> exact absurd h (by decide)

/-- A bracket behind a full stop is in no host. -/
theorem domainHost?_append_bracket {cs ds : List Char} {h : Host}
    (hds : ∀ c ∈ ds, c.toNat < 0x80) (hpercent : '%' ∉ ds) (hbracket : '[' ∈ ds) :
    domainHost? (cs ++ '.' :: ds) ≠ .ok h := by
  intro hread
  have hrefused {typed plain : List Char}
      (hresolved : (Utf8.decode (Percent.decode (cs ++ '.' :: ds))).mapM id = some typed)
      (hfolded : Domain.plain? typed = some plain) : False := by
    obtain ⟨front, rfl⟩ := resolve_append Percent.standsAlone_stop hpercent hresolved
    rw [List.append_cons] at hfolded
    have hallowed := Domain.allowed_of_plain?_append hds hfolded '[' hbracket
    exact absurd hallowed (by decide)
  cases readsAs_of_domainHost? hread with
  | bracket inner ns htext number =>
    refine bracket_not_in_number number ?_
    cases cs with
    | nil => exact absurd (List.cons.inj htext).1 (by decide)
    | cons c cs =>
      have hmem : '[' ∈ inner ++ [']'] := by
        rw [← (List.cons.inj htext).2]
        exact List.mem_append_right _ (List.mem_cons_of_mem _ hbracket)
      exact (List.mem_append.1 hmem).resolve_right (by decide)
  | number typed plain m start resolved folded last number => exact hrefused resolved folded
  | name typed plain start resolved folded filled last => exact hrefused resolved folded

/-- Blanks and control characters stand alone. -/
theorem standsAlone_of_blank {c : Char} (h : c.toNat ≤ 0x20) : Percent.StandsAlone c := by
  have hless (d : Char) (hd : 0x20 < d.toNat) : ¬d ≤ c := fun hle => by
    have hle : d.toNat ≤ c.toNat := hle
    omega
  refine ⟨by omega, ?_, ?_⟩
  · rintro rfl
    exact absurd h (by decide)
  · simp [Percent.digit?, hless '0' (by decide), hless 'A' (by decide), hless 'a' (by decide)]

/-- No host ends in a blank. -/
theorem visible_of_domainHost? {cs : List Char} {c : Char} {h : Host}
    (hread : domainHost? (cs ++ [c]) = .ok h) : 0x20 < c.toNat := by
  by_contra hblank
  have hblank : c.toNat ≤ 0x20 := by omega
  have hrefused {typed plain : List Char}
      (hresolved : (Utf8.decode (Percent.decode (cs ++ [c]))).mapM id = some typed)
      (hfolded : Domain.plain? typed = some plain) : False := by
    obtain ⟨front, rfl⟩ := resolve_append (standsAlone_of_blank hblank) List.not_mem_nil hresolved
    have hallowed := Domain.allowed_of_plain?_append
      (List.forall_mem_singleton.2 (by omega)) hfolded c (List.mem_singleton_self c)
    rw [Domain.toLower_of_not_capital (.inl (by omega))] at hallowed
    simp [Domain.isForbidden, hblank] at hallowed
  cases readsAs_of_domainHost? hread with
  | bracket inner ns htext number =>
    have hlast := congrArg List.getLast? htext
    rw [List.getLast?_concat, ← List.cons_append, List.getLast?_concat] at hlast
    obtain rfl := Option.some.inj hlast
    exact absurd hblank (by decide)
  | number typed plain m start resolved folded last number => exact hrefused resolved folded
  | name typed plain start resolved folded filled last => exact hrefused resolved folded

end Url

end UaaAdmin
