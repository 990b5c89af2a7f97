import Mathlib.Algebra.Group.Nat.Defs
import Mathlib.Data.List.Induction
import Mathlib.Data.List.TakeWhile
import UaaAdmin.Proofs.PlainNames
import UaaAdmin.Url.Host

/-!
# Hosts that are numbers

Network addresses are read from more forms than the one they are written in, but the written form is
read as the same address: `ipv4?_print` and `ipv6?_print`. A version 4 address with more in front of
it is none (`ipv4?_append_print`), since all of its four parts are written.
-/

namespace UaaAdmin.Url

open UaaAdmin.Text

/-! ## Digits -/

/-- The digit that a value is written with is read as this value. -/
theorem digitIn?_digitChar {base d : Nat} (hd : d < base) (hbase : base ≤ 16) :
    digitIn? base (Nat.digitChar d) = some d := by
  have hdigit : ∀ d : Fin 16, Percent.digit? (Nat.digitChar d) = some d.val := by decide
  rw [digitIn?, hdigit ⟨d, by omega⟩, Option.bind_some, if_pos hd]

/-- One more digit shifts what has been read by one place. -/
theorem numberIn?_concat (base : Nat) (cs : List Char) (c : Char) :
    numberIn? base (cs ++ [c])
      = (numberIn? base cs).bind fun n => (digitIn? base c).map (n * base + ·) := by
  rw [numberIn?, List.foldlM_append]
  simp [numberIn?]

/-- The digits of a number denote it. -/
theorem numberIn?_toDigits {base : Nat} (hlow : 1 < base) (hhigh : base ≤ 16) (n : Nat) :
    numberIn? base (Nat.toDigits base n) = some n := by
  induction n using Nat.strongRecOn with
  | ind n ih =>
    rw [Nat.toDigits_eq_if hlow]
    split
    · rename_i hlt
      simp [numberIn?, digitIn?_digitChar hlt hhigh]
    · rename_i hge
      have hless : n / base < n := Nat.div_lt_self (by omega) hlow
      have hmod : n % base < base := Nat.mod_lt n (by omega)
      rw [numberIn?_concat, ih _ hless, Option.bind_some, digitIn?_digitChar hmod hhigh,
        Option.map_some, Nat.div_add_mod']

/-- A number below a power of the base has no more digits than the power has places. -/
theorem length_toDigits_le {base : Nat} (hbase : 1 < base) {n k : Nat} (h : n < base ^ (k + 1)) :
    (Nat.toDigits base n).length ≤ k + 1 := by
  induction k generalizing n with
  | zero =>
    rw [Nat.zero_add, Nat.pow_one] at h
    rw [Nat.toDigits_of_lt_base h]
    exact Nat.le_refl 1
  | succ k ih =>
    rw [Nat.toDigits_eq_if hbase]
    split
    · exact Nat.le_add_left 1 _
    · have hless : n / base < base ^ (k + 1) := by
        rw [Nat.div_lt_iff_lt_mul (by omega)]
        exact h
      rw [List.length_append, List.length_singleton]
      exact Nat.succ_le_succ (ih hless)

/-- A number is made of digits, and as large as their count lets it be. -/
theorem numberIn?_bounds {base : Nat} {cs : List Char} {n : Nat} (h : numberIn? base cs = some n) :
    n < base ^ cs.length ∧ ∀ c ∈ cs, (Percent.digit? c).isSome := by
  induction cs using List.reverseRecOn generalizing n with
  | nil =>
    cases h
    exact ⟨Nat.one_pos, List.forall_mem_nil _⟩
  | append_singleton cs c ih =>
    rw [numberIn?_concat] at h
    obtain ⟨m, hm, h⟩ := Option.bind_eq_some_iff.1 h
    obtain ⟨d, hd, rfl⟩ := Option.map_eq_some_iff.1 h
    obtain ⟨e, he, hd⟩ := Option.bind_eq_some_iff.1 hd
    obtain ⟨hless, hall⟩ := ih hm
    split at hd
    · rename_i hlt
      obtain rfl := Option.some.inj hd
      refine ⟨?_, List.forall_mem_append.2 ⟨hall, List.forall_mem_singleton.2 ?_⟩⟩
      · rw [List.length_append, List.length_singleton, Nat.pow_succ]
        calc m * base + e < m * base + base := Nat.add_lt_add_left hlt _
          _ = (m + 1) * base := (Nat.succ_mul m base).symm
          _ ≤ base ^ cs.length * base := Nat.mul_le_mul_right base hless
      · rw [he]
        rfl
    · cases hd

/-- A number is written in digits only. -/
theorem digit?_of_mem_toDigits {n : Nat} {c : Char} {base : Nat} (hlow : 1 < base)
    (hhigh : base ≤ 16) (h : c ∈ Nat.toDigits base n) : (Percent.digit? c).isSome :=
  (numberIn?_bounds (numberIn?_toDigits hlow hhigh n)).2 c h

/-! ## Version 4 -/

/-- The four parts of an address of version 4. -/
def bytesOf (n : Nat) : List Nat :=
  [n / 16777216 % 256, n / 65536 % 256, n / 256 % 256, n % 256]

/-- An address of version 4 is written as its four bytes in base 10, with full stops between them.
-/
theorem toList_printIpv4 (n : Nat) :
    (printIpv4 n).toList = ['.'].intercalate ((bytesOf n).map (Nat.toDigits 10)) := by
  simp [printIpv4, bytesOf]

/-- What is no digit stands in no written number. -/
theorem not_mem_toDigits {mark : Char} (hmark : Percent.digit? mark = none) {base n : Nat}
    (hlow : 1 < base) (hhigh : base ≤ 16) : mark ∉ Nat.toDigits base n := by
  intro h
  have hsome := digit?_of_mem_toDigits hlow hhigh h
  rw [hmark] at hsome
  cases hsome

/-- Full stops separate the four bytes, and stand nowhere else. -/
theorem splitOn_printIpv4 (n : Nat) :
    (printIpv4 n).toList.splitOn '.' = (bytesOf n).map (Nat.toDigits 10) := by
  rw [toList_printIpv4]
  refine List.splitOn_intercalate '.' (fun part hpart => ?_) (List.cons_ne_nil _ _)
  obtain ⟨b, -, rfl⟩ := List.mem_map.1 hpart
  exact not_mem_toDigits (by decide) (by decide) (by decide)

/-- Only an empty last part is dropped. -/
theorem dottedParts_of_last {cs : List Char} (part : List Char)
    (h : (cs.splitOn '.').getLast? = some part) (hne : part ≠ []) :
    dottedParts cs = cs.splitOn '.' := by
  simp [dottedParts, h, hne]

/-- The four bytes remain parts of their own behind other ones. -/
theorem dottedParts_append_printIpv4 (cs : List Char) (n : Nat) :
    dottedParts (cs ++ '.' :: (printIpv4 n).toList)
      = cs.splitOn '.' ++ (bytesOf n).map (Nat.toDigits 10) := by
  have hsplit : (cs ++ '.' :: (printIpv4 n).toList).splitOn '.'
      = cs.splitOn '.' ++ (bytesOf n).map (Nat.toDigits 10) := by
    rw [List.splitOn_append_cons_self, splitOn_printIpv4]
  rw [← hsplit]
  refine dottedParts_of_last (Nat.toDigits 10 (n % 256)) ?_ Nat.toDigits_ne_nil
  rw [hsplit]
  simp [bytesOf]

/-- The parts of a written address are its four bytes. -/
theorem dottedParts_printIpv4 (n : Nat) :
    dottedParts (printIpv4 n).toList = (bytesOf n).map (Nat.toDigits 10) := by
  rw [dottedParts_of_last (Nat.toDigits 10 (n % 256)) _ Nat.toDigits_ne_nil,
    splitOn_printIpv4]
  rw [splitOn_printIpv4]
  simp [bytesOf]

/-- A byte in base 10 is read as this byte, and not in another base. -/
theorem ipv4Part?_toDigits {n : Nat} (h : n < 256) : ipv4Part? (Nat.toDigits 10 n) = some n := by
  have hall : ∀ n : Fin 256, ipv4Part? (Nat.toDigits 10 n) = some n.val := by decide +kernel
  exact hall ⟨n, h⟩

/-- Four bytes are put together from the first one on. -/
theorem ipv4OfParts?_four {a b c d : Nat} (ha : a < 256) (hb : b < 256) (hc : c < 256)
    (hd : d < 256) : ipv4OfParts? [a, b, c, d] = some (((a * 256 + b) * 256 + c) * 256 + d) := by
  have hbytes : [c, b, a].any (· > 255) = false := by
    simp only [List.any_cons, List.any_nil, gt_iff_lt, Bool.or_false, Bool.or_eq_false_iff,
      decide_eq_false_iff_not]
    omega
  have hroom : ¬d ≥ Nat.pow 256 (4 - 3) := by
    show ¬d ≥ 256
    omega
  show (if (decide (4 > 4) || [c, b, a].any (· > 255) || decide (d ≥ Nat.pow 256 (4 - 3))) = true
    then none else some ((((0 * 256 + a) * 256 + b) * 256 + c) * 256 + d)) = _
  rw [hbytes, decide_eq_false hroom]
  simp

/-- More than four parts make no address. -/
theorem ipv4OfParts?_more {ns : List Nat} (h : 4 < ns.length) : ipv4OfParts? ns = none := by
  unfold ipv4OfParts?
  split
  · rfl
  · simp [h]

/-- The written form of an address of version 4 denotes it. -/
theorem ipv4?_print {n : Nat} (h : n < 4294967296) : ipv4? (printIpv4 n).toList = some n := by
  have hbyte (m : Nat) : ipv4Part? (Nat.toDigits 10 (m % 256)) = some (m % 256) :=
    ipv4Part?_toDigits (Nat.mod_lt m (by decide))
  have hparts : ((bytesOf n).map (Nat.toDigits 10)).mapM ipv4Part? = some (bytesOf n) := by
    simp [bytesOf, hbyte]
  rw [ipv4?, dottedParts_printIpv4, hparts, Option.bind_some, bytesOf,
    ipv4OfParts?_four (by omega) (by omega) (by omega) (by omega), Option.some.injEq]
  omega

/-- If every item gives something, as many things as items are given. -/
theorem length_of_mapM {α β : Type} {f : α → Option β} {l : List α} {r : List β}
    (h : l.mapM f = some r) : r.length = l.length := by
  induction l generalizing r with
  | nil =>
    cases h
    rfl
  | cons a l ih =>
    simp only [List.mapM_cons, Option.pure_def, Option.bind_eq_bind] at h
    obtain ⟨b, -, h⟩ := Option.bind_eq_some_iff.1 h
    obtain ⟨bs, hbs, h⟩ := Option.bind_eq_some_iff.1 h
    cases h
    rw [List.length_cons, List.length_cons, ih hbs]

/-- The four parts of an address leave no room for another one. -/
theorem ipv4?_append_print (cs : List Char) (n : Nat) :
    ipv4? (cs ++ '.' :: (printIpv4 n).toList) = none := by
  have hfront : 0 < (cs.splitOn '.').length := List.length_pos_iff.2 (List.splitOn_ne_nil '.' cs)
  refine Option.bind_eq_none_iff.2 fun ns hns => ipv4OfParts?_more ?_
  rw [length_of_mapM hns, dottedParts_append_printIpv4, List.length_append, List.length_map]
  exact Nat.lt_add_of_pos_left hfront

/-- A name that ends in a full stop has another part in front of it. -/
theorem one_lt_length_splitOn {cs : List Char} (h : cs ≠ [])
    (hlast : (cs.splitOn '.').getLast? = some []) : 1 < (cs.splitOn '.').length := by
  have hpos : 0 < (cs.splitOn '.').length := List.length_pos_iff.2 (List.splitOn_ne_nil '.' cs)
  refine Nat.lt_of_le_of_ne hpos fun hone => h ?_
  obtain ⟨part, hpart⟩ := List.length_eq_one_iff.1 hone.symm
  rw [hpart, List.getLast?_singleton, Option.some.injEq] at hlast
  have hwhole : List.intercalate ['.'] (cs.splitOn '.') = cs := List.intercalate_splitOn '.'
  rw [← hwhole, hpart, hlast]
  rfl

/-- Whether a name ends in a number does not depend on what is put in front of it. -/
theorem endsInNumber_append (cs : List Char) {ds : List Char} (h : ds ≠ []) :
    endsInNumber (cs ++ '.' :: ds) = endsInNumber ds := by
  have hds := List.splitOn_ne_nil '.' ds
  have hlast : (dottedParts (cs ++ '.' :: ds)).getLast? = (dottedParts ds).getLast? := by
    unfold dottedParts
    dsimp only
    rw [List.splitOn_append_cons_self, List.getLast?_append_of_ne_nil _ hds]
    by_cases hempty : (ds.splitOn '.').getLast? = some []
    · have hcount := one_lt_length_splitOn h hempty
      have hmore : 1 < (cs.splitOn '.').length + (ds.splitOn '.').length := by omega
      have hrest : (ds.splitOn '.').dropLast ≠ [] := by
        rw [← List.length_pos_iff, List.length_dropLast]
        omega
      rw [if_pos (by simp [hempty, hmore]), if_pos (by simp [hempty, hcount]),
        List.dropLast_append_of_ne_nil hds, List.getLast?_append_of_ne_nil _ hrest]
    · rw [if_neg (by simp [hempty]), if_neg (by simp [hempty]),
        List.getLast?_append_of_ne_nil _ hds]
  rw [endsInNumber, hlast, endsInNumber]

/-- A written address of version 4 ends in a number. -/
theorem endsInNumber_printIpv4 (n : Nat) : endsInNumber (printIpv4 n).toList = true := by
  have hdigits : (Nat.toDigits 10 (n % 256)).all Char.isDigit = true :=
    List.all_eq_true.2 fun c hc => Nat.isDigit_of_mem_toDigits (by decide) (by decide) hc
  rw [endsInNumber, dottedParts_printIpv4]
  simp [bytesOf, hdigits]

/-- Some bytes make a number that has no more bytes than these. -/
theorem foldl_bytes_lt {bytes : List Nat} (h : ∀ b ∈ bytes, b ≤ 255) :
    bytes.reverse.foldl (fun acc b => acc * 256 + b) 0 < 256 ^ bytes.length := by
  induction bytes with
  | nil => exact Nat.one_pos
  | cons b bytes ih =>
    obtain ⟨hb, hbytes⟩ := List.forall_mem_cons.1 h
    have ih := ih hbytes
    rw [List.reverse_cons, List.foldl_append, List.foldl_cons, List.foldl_nil, List.length_cons,
      Nat.pow_succ]
    omega

/-- An address of version 4 has four bytes. -/
theorem ipv4?_lt {cs : List Char} {n : Nat} (h : ipv4? cs = some n) : n < 4294967296 := by
  obtain ⟨ns, -, h⟩ := Option.bind_eq_some_iff.1 h
  unfold ipv4OfParts? at h
  split at h
  · cases h
  · rename_i last bytes hns
    dsimp only at h
    split at h
    · cases h
    · rename_i hbounds
      have hlength : bytes.length + 1 = ns.length := by
        have hturned : ns.reverse.length = ns.length := List.length_reverse
        rw [← hturned, hns, List.length_cons]
      simp only [Bool.or_eq_true, decide_eq_true_eq, not_or, Bool.not_eq_true, List.any_eq_false,
        Nat.not_lt, Nat.not_le, gt_iff_lt, ge_iff_le] at hbounds
      obtain ⟨⟨hcount, hbytes⟩, hlast⟩ := hbounds
      have hfront := foldl_bytes_lt hbytes
      obtain rfl := Option.some.inj h
      generalize bytes.reverse.foldl (fun acc b => acc * 256 + b) 0 = front at *
      -- The last number fills the bytes that are left.
      calc front * 256 ^ (4 - bytes.length) + last
          < front * 256 ^ (4 - bytes.length) + 256 ^ (4 - bytes.length) :=
            Nat.add_lt_add_left hlast _
        _ = (front + 1) * 256 ^ (4 - bytes.length) := (Nat.succ_mul _ _).symm
        _ ≤ 256 ^ bytes.length * 256 ^ (4 - bytes.length) := Nat.mul_le_mul_right _ hfront
        _ = 256 ^ 4 := by
          rw [← Nat.pow_add]
          congr 1
          omega

/-! ## Version 6 -/

/-- Pieces are written in base 16, with colons between them. -/
theorem toList_printPieces (ns : List Nat) :
    (printPieces ns).toList = [':'].intercalate (ns.map (Nat.toDigits 16)) := by
  simp [printPieces, String.toList_intercalate, Function.comp_def]

/-- There is no colon within a piece. -/
theorem colon_not_mem_toDigits (n : Nat) : ':' ∉ Nat.toDigits 16 n :=
  not_mem_toDigits (by decide) (by decide) (by decide)

/-- Every piece begins with a digit. -/
theorem exists_toList_printPieces_cons (n : Nat) (ns : List Nat) :
    ∃ c cs, (printPieces (n :: ns)).toList = c :: cs ∧ c ≠ ':' := by
  obtain ⟨c, cs, hdigits⟩ := List.exists_cons_of_ne_nil (Nat.toDigits_ne_nil (n := n) (b := 16))
  have hc : c ≠ ':' := by
    rintro rfl
    exact colon_not_mem_toDigits n (hdigits ▸ List.mem_cons_self)
  rw [toList_printPieces, List.map_cons, hdigits]
  cases ns with
  | nil => exact ⟨c, cs, List.intercalate_singleton, hc⟩
  | cons m ns => exact ⟨c, _, List.intercalate_cons_cons, hc⟩

/-- Behind the first piece and a colon stand the others. -/
theorem toList_printPieces_cons_cons (n m : Nat) (ns : List Nat) :
    (printPieces (n :: m :: ns)).toList
      = Nat.toDigits 16 n ++ ':' :: (printPieces (m :: ns)).toList := by
  rw [toList_printPieces, toList_printPieces, List.map_cons,
    List.intercalate_cons_of_ne_nil (by simp), List.append_assoc]
  rfl

/-- Colons separate the pieces, and stand nowhere else. -/
theorem colonParts_printPieces (ns : List Nat) :
    colonParts (printPieces ns).toList = ns.map (Nat.toDigits 16) := by
  cases ns with
  | nil => rfl
  | cons n ns =>
    obtain ⟨c, cs, htext, -⟩ := exists_toList_printPieces_cons n ns
    have hne : (printPieces (n :: ns)).toList.isEmpty = false := by rw [htext]; rfl
    rw [colonParts, hne, if_neg Bool.false_ne_true, toList_printPieces]
    refine List.splitOn_intercalate ':' (fun part hpart => ?_) (List.cons_ne_nil _ _)
    obtain ⟨m, -, rfl⟩ := List.mem_map.1 hpart
    exact colon_not_mem_toDigits m

/-- A piece is read as what it is written from, since it has at most four digits. -/
theorem ipv6Piece?_toDigits {n : Nat} (h : n < 65536) :
    ipv6Piece? (Nat.toDigits 16 n) = some n := by
  have hlength : ¬(Nat.toDigits 16 n).length > 4 :=
    Nat.not_lt.2 (length_toDigits_le (k := 3) (by decide) h)
  rw [ipv6Piece?, if_neg (by simp [hlength]), numberIn?_toDigits (by decide) (by decide)]

/-- Pieces on one side of the gap are read one by one, none as an address of version 4. -/
theorem ipv6Side?_toDigits (last : Bool) {ns : List Nat} (h : ∀ n ∈ ns, n < 65536) :
    ipv6Side? last (ns.map (Nat.toDigits 16)) = some ns := by
  induction ns with
  | nil => rfl
  | cons n ns ih =>
    obtain ⟨hn, hns⟩ := List.forall_mem_cons.1 h
    have ih := ih hns
    have hdot : '.' ∉ Nat.toDigits 16 n :=
      not_mem_toDigits (by decide) (by decide) (by decide)
    cases ns with
    | nil => simp [ipv6Side?, ipv6Piece?_toDigits hn, hdot]
    | cons m ns =>
      rw [List.map_cons, List.map_cons, ipv6Side?, ← List.map_cons, ih, ipv6Piece?_toDigits hn]
      · rfl
      · simp

/-! ### The gap -/

/-- The gap is found behind what has no colon in it. -/
theorem splitGap_append {ds : List Char} (h : ':' ∉ ds) (cs : List Char) :
    splitGap (ds ++ cs) = (splitGap cs).map fun p => (ds ++ p.1, p.2) := by
  induction ds with
  | nil => simp
  | cons d ds ih =>
    obtain ⟨hd, hds⟩ := List.ne_and_not_mem_of_not_mem_cons h
    rw [List.cons_append, splitGap, ih hds]
    · cases splitGap cs <;> rfl
    · rintro _ rfl
      exact absurd rfl hd

/-- A single colon is no gap. -/
theorem splitGap_colon {c : Char} (h : c ≠ ':') (cs : List Char) :
    splitGap (':' :: c :: cs) = (splitGap (c :: cs)).map fun p => (':' :: p.1, p.2) := by
  rw [splitGap]
  rintro _ - heq
  cases heq
  exact h rfl

/-- There is no gap in pieces with single colons between them. -/
theorem splitGap_printPieces (ns : List Nat) (cs : List Char) :
    splitGap ((printPieces ns).toList ++ cs)
      = (splitGap cs).map fun p => ((printPieces ns).toList ++ p.1, p.2) := by
  induction ns with
  | nil => simp [toList_printPieces]
  | cons n ns ih =>
    cases ns with
    | nil =>
      rw [toList_printPieces, List.map_singleton, List.intercalate_singleton]
      exact splitGap_append (colon_not_mem_toDigits n) cs
    | cons m ns =>
      obtain ⟨c, rest, htext, hc⟩ := exists_toList_printPieces_cons m ns
      rw [toList_printPieces_cons_cons, List.append_assoc,
        splitGap_append (colon_not_mem_toDigits n), List.cons_append, htext, List.cons_append,
        splitGap_colon hc, ← List.cons_append, ← htext, ih]
      cases splitGap cs with
      | none => rfl
      | some p => simp

/-- Pieces without a gap are not split. -/
theorem splitGap_ungapped (ns : List Nat) : splitGap (printPieces ns).toList = none := by
  rw [← List.append_nil (printPieces ns).toList, splitGap_printPieces]
  rfl

/-- Pieces on both sides of a gap are split there. -/
theorem splitGap_gapped (ns ms : List Nat) :
    splitGap (printPieces ns ++ "::" ++ printPieces ms).toList
      = some ((printPieces ns).toList, (printPieces ms).toList) := by
  rw [String.toList_append, String.toList_append, List.append_assoc, splitGap_printPieces]
  show (splitGap (':' :: ':' :: _)).map _ = _
  simp [splitGap]

/-- Pieces with a gap between them are filled up with zeros. -/
theorem ipv6?_gapped {ns ms : List Nat} (hns : ∀ n ∈ ns, n < 65536) (hms : ∀ n ∈ ms, n < 65536)
    (hcount : ns.length + ms.length < 8) :
    ipv6? (printPieces ns ++ "::" ++ printPieces ms).toList
      = some (ns ++ List.replicate (8 - ns.length - ms.length) 0 ++ ms) := by
  unfold ipv6?
  rw [splitGap_gapped]
  dsimp only
  rw [colonParts_printPieces, colonParts_printPieces, ipv6Side?_toDigits false hns,
    ipv6Side?_toDigits true hms]
  simp only [Option.bind_eq_bind, Option.bind_some]
  rw [if_pos hcount]

/-- All eight pieces are read as they are written. -/
theorem ipv6?_ungapped {ns : List Nat} (hcount : ns.length = 8) (hns : ∀ n ∈ ns, n < 65536) :
    ipv6? (printPieces ns).toList = some ns := by
  unfold ipv6?
  rw [splitGap_ungapped]
  dsimp only
  rw [colonParts_printPieces, ipv6Side?_toDigits true hns, Option.bind_some, if_pos hcount]

/-- What is counted as a run of zeros is one. -/
theorem take_zeroRun (ns : List Nat) : ns.take (zeroRun ns) = List.replicate (zeroRun ns) 0 := by
  have htake : ns.takeWhile (· == 0) = ns.take (zeroRun ns) :=
    List.prefix_iff_eq_take.1 (List.takeWhile_prefix _)
  rw [← htake]
  refine List.eq_replicate_iff.2 ⟨rfl, fun n hn => ?_⟩
  have hzero : (n == 0) = true := List.mem_takeWhile_imp (p := (· == 0)) hn
  exact eq_of_beq hzero

/-- A run of zeros stands where the longest one is said to be. -/
theorem longestZeros_spec (i : Nat) (ns : List Nat) :
    ∃ place, (longestZeros i ns).1 = i + place ∧
      ns.take place ++ List.replicate (longestZeros i ns).2 0
        ++ ns.drop (place + (longestZeros i ns).2) = ns := by
  induction ns generalizing i with
  | nil => exact ⟨0, rfl, rfl⟩
  | cons n ns ih =>
    unfold longestZeros
    dsimp only
    split
    · refine ⟨0, rfl, ?_⟩
      rw [List.take_zero, List.nil_append, Nat.zero_add, ← take_zeroRun, List.take_append_drop]
    · obtain ⟨place, hplace, hns⟩ := ih (i + 1)
      refine ⟨place + 1, by omega, ?_⟩
      rw [Nat.add_right_comm, List.take_succ_cons, List.drop_succ_cons, List.cons_append,
        List.cons_append, hns]

/-- The written form of an address of version 6 denotes it. -/
theorem ipv6?_print {ns : List Nat} (hcount : ns.length = 8) (hns : ∀ n ∈ ns, n < 65536) :
    ipv6? (printIpv6 ns).toList = some ns := by
  obtain ⟨place, hplace, hsplit⟩ := longestZeros_spec 0 ns
  rw [Nat.zero_add] at hplace
  unfold printIpv6
  dsimp only
  rw [hplace]
  generalize (longestZeros 0 ns).2 = count at *
  split
  · exact ipv6?_ungapped hcount hns
  · have hlength := congrArg List.length hsplit
    rw [List.length_append, List.length_append, List.length_replicate, hcount] at hlength
    have hzeros : 8 - (ns.take place).length - (ns.drop (place + count)).length = count := by omega
    rw [ipv6?_gapped (fun n hn => hns n (List.mem_of_mem_take hn))
      (fun n hn => hns n (List.mem_of_mem_drop hn)) (by omega), hzeros, hsplit]

/-- Pieces are written in digits and colons. -/
theorem mem_printPieces {ns : List Nat} {c : Char} (h : c ∈ (printPieces ns).toList) :
    c = ':' ∨ (Percent.digit? c).isSome := by
  rw [toList_printPieces] at h
  refine (Domain.mem_intercalate h).imp_right ?_
  rintro ⟨part, hpart, hc⟩
  obtain ⟨n, -, rfl⟩ := List.mem_map.1 hpart
  exact digit?_of_mem_toDigits (by decide) (by decide) hc

/-- An address of version 6 is written in digits and colons. -/
theorem mem_printIpv6 {ns : List Nat} {c : Char} (h : c ∈ (printIpv6 ns).toList) :
    c = ':' ∨ (Percent.digit? c).isSome := by
  unfold printIpv6 at h
  dsimp only at h
  split at h
  · exact mem_printPieces h
  · rw [String.toList_append, String.toList_append, List.mem_append, List.mem_append] at h
    rcases h with (h | h) | h
    · exact mem_printPieces h
    · have hcolons : ∀ c ∈ "::".toList, c = ':' := List.all_iff_forall_prop.1 (by decide)
      exact .inl (hcolons c h)
    · exact mem_printPieces h

/-! ### What is read -/

/-- A piece has two bytes and is read from digits only. -/
theorem ipv6Piece?_bounds {cs : List Char} {n : Nat} (h : ipv6Piece? cs = some n) :
    n < 65536 ∧ ∀ c ∈ cs, (Percent.digit? c).isSome := by
  unfold ipv6Piece? at h
  split at h
  · cases h
  · rename_i hlength
    simp only [Bool.or_eq_true, decide_eq_true_eq, not_or, Nat.not_lt, gt_iff_lt] at hlength
    obtain ⟨hless, hall⟩ := numberIn?_bounds h
    exact ⟨Nat.lt_of_lt_of_le hless (Nat.pow_le_pow_right (n := 16) (by decide) hlength.2), hall⟩

/-- A byte of an address of version 4 behind the pieces is read from digits only. -/
theorem plainByte?_bounds {cs : List Char} {n : Nat} (h : plainByte? cs = some n) :
    n < 256 ∧ ∀ c ∈ cs, (Percent.digit? c).isSome := by
  unfold plainByte? at h
  split at h
  · cases h
  · obtain ⟨m, hm, h⟩ := Option.bind_eq_some_iff.1 h
    split at h
    · rename_i hless
      cases h
      exact ⟨Nat.lt_succ_of_le hless, (numberIn?_bounds hm).2⟩
    · cases h

/-- What holds of each item and of what it gives holds of all items and of all that is given. -/
theorem forall_of_mapM {α β : Type} {f : α → Option β} {p : α → Prop} {q : β → Prop}
    (hf : ∀ a b, f a = some b → q b ∧ p a) {l : List α} {r : List β} (h : l.mapM f = some r) :
    (∀ b ∈ r, q b) ∧ ∀ a ∈ l, p a := by
  induction l generalizing r with
  | nil =>
    cases h
    exact ⟨List.forall_mem_nil _, List.forall_mem_nil _⟩
  | cons a l ih =>
    simp only [List.mapM_cons, Option.pure_def, Option.bind_eq_bind] at h
    obtain ⟨b, hb, h⟩ := Option.bind_eq_some_iff.1 h
    obtain ⟨bs, hbs, h⟩ := Option.bind_eq_some_iff.1 h
    cases h
    obtain ⟨hq, hp⟩ := ih hbs
    exact ⟨List.forall_mem_cons.2 ⟨(hf a b hb).1, hq⟩, List.forall_mem_cons.2 ⟨(hf a b hb).2, hp⟩⟩

/-- The character may stand between the colons of an address of version 6. -/
def IsPieceChar (c : Char) : Prop :=
  c = '.' ∨ (Percent.digit? c).isSome

/-- On one side of the gap stand pieces of two bytes, read from digits and full stops only. -/
theorem ipv6Side?_bounds {last : Bool} {parts : List (List Char)} {ns : List Nat}
    (h : ipv6Side? last parts = some ns) :
    (∀ n ∈ ns, n < 65536) ∧ ∀ part ∈ parts, ∀ c ∈ part, IsPieceChar c := by
  fun_induction ipv6Side? last parts generalizing ns with
  | case1 =>
    cases h
    exact ⟨List.forall_mem_nil _, List.forall_mem_nil _⟩
  | case2 part hlast a b c d hbytes =>
    cases h
    obtain ⟨hless, hall⟩ := forall_of_mapM (fun _ _ => plainByte?_bounds) hbytes
    have ha := hless a (by simp)
    have hb := hless b (by simp)
    have hc := hless c (by simp)
    have hd := hless d (by simp)
    refine ⟨List.forall_mem_cons.2 ⟨by omega, List.forall_mem_singleton.2 (by omega)⟩,
      List.forall_mem_singleton.2 fun e he => ?_⟩
    -- The last part may hold an address of version 4, which makes two pieces.
    have hwhole : List.intercalate ['.'] (part.splitOn '.') = part := List.intercalate_splitOn '.'
    rw [← hwhole] at he
    exact (Domain.mem_intercalate he).imp_right fun ⟨byte, hbyte, he⟩ => hall byte hbyte e he
  | case3 => cases h
  | case4 part hlast =>
    obtain ⟨n, hn, rfl⟩ := Option.map_eq_some_iff.1 h
    obtain ⟨hless, hall⟩ := ipv6Piece?_bounds hn
    exact ⟨List.forall_mem_singleton.2 hless,
      List.forall_mem_singleton.2 fun c hc => .inr (hall c hc)⟩
  | case5 part parts _ ih =>
    simp only [Option.bind_eq_bind] at h
    obtain ⟨n, hn, h⟩ := Option.bind_eq_some_iff.1 h
    obtain ⟨ms, hms, h⟩ := Option.bind_eq_some_iff.1 h
    cases h
    obtain ⟨hless, hall⟩ := ipv6Piece?_bounds hn
    obtain ⟨hmore, hparts⟩ := ih hms
    exact ⟨List.forall_mem_cons.2 ⟨hless, hmore⟩,
      List.forall_mem_cons.2 ⟨fun c hc => .inr (hall c hc), hparts⟩⟩

/-- Where a text is split at a gap, two colons stand between its parts. -/
theorem eq_append_of_splitGap {cs before behind : List Char}
    (h : splitGap cs = some (before, behind)) : cs = before ++ ':' :: ':' :: behind := by
  fun_induction splitGap cs generalizing before behind with
  | case1 => cases h
  | case2 cs =>
    cases h
    rfl
  | case3 c cs _ ih =>
    obtain ⟨⟨front, rest⟩, hgap, heq⟩ := Option.map_eq_some_iff.1 h
    cases heq
    rw [ih hgap]
    rfl

/-- A character of a text is a colon or stands in one of its parts. -/
theorem mem_colonParts {cs : List Char} {c : Char} (h : c ∈ cs) :
    c = ':' ∨ ∃ part ∈ colonParts cs, c ∈ part := by
  have hne : cs.isEmpty = false := List.isEmpty_eq_false_iff.2 (List.ne_nil_of_mem h)
  rw [colonParts, hne, if_neg Bool.false_ne_true]
  have hwhole : List.intercalate [':'] (cs.splitOn ':') = cs := List.intercalate_splitOn ':'
  rw [← hwhole] at h
  exact Domain.mem_intercalate h

/-- The text on one side of the gap has digits, full stops and colons only. -/
theorem ipv6Side?_colonParts {last : Bool} {cs : List Char} {ns : List Nat}
    (h : ipv6Side? last (colonParts cs) = some ns) :
    (∀ n ∈ ns, n < 65536) ∧ ∀ c ∈ cs, c = ':' ∨ IsPieceChar c := by
  obtain ⟨hless, hall⟩ := ipv6Side?_bounds h
  exact ⟨hless, fun c hc => (mem_colonParts hc).imp_right fun ⟨part, hpart, hc⟩ =>
    hall part hpart c hc⟩

/-- An address of version 6 has eight pieces of two bytes, and is read from digits, colons and full
stops only. -/
theorem ipv6?_bounds {cs : List Char} {ns : List Nat} (h : ipv6? cs = some ns) :
    ns.length = 8 ∧ (∀ n ∈ ns, n < 65536) ∧ ∀ c ∈ cs, c = ':' ∨ IsPieceChar c := by
  unfold ipv6? at h
  split at h
  · obtain ⟨ms, hms, h⟩ := Option.bind_eq_some_iff.1 h
    split at h
    · rename_i hcount
      cases h
      exact ⟨hcount, ipv6Side?_colonParts hms⟩
    · cases h
  · rename_i before behind hgap
    simp only [Option.bind_eq_bind] at h
    obtain ⟨ms, hms, h⟩ := Option.bind_eq_some_iff.1 h
    obtain ⟨ks, hks, h⟩ := Option.bind_eq_some_iff.1 h
    obtain ⟨hfront, hbefore⟩ := ipv6Side?_colonParts hms
    obtain ⟨hback, hbehind⟩ := ipv6Side?_colonParts hks
    split at h
    · rename_i hcount
      cases h
      -- The gap stands for as many zeros as are missing.
      refine ⟨?_, ?_, ?_⟩
      · rw [List.length_append, List.length_append, List.length_replicate]
        omega
      · intro n hn
        rcases List.mem_append.1 hn with hn | hn
        · rcases List.mem_append.1 hn with hn | hn
          · exact hfront n hn
          · rw [List.eq_of_mem_replicate hn]
            decide
        · exact hback n hn
      · rw [eq_append_of_splitGap hgap]
        exact List.forall_mem_append.2
          ⟨hbefore, List.forall_mem_cons.2 ⟨.inl rfl, List.forall_mem_cons.2 ⟨.inl rfl, hbehind⟩⟩⟩
    · cases h

end UaaAdmin.Url
