import UaaAdmin.Proofs.AddressesBelow

/-!
# Weights of paths

A path weighs as many bytes as its segments are read as, with one more for each slash. Whatever is
done to a text on its way to a path takes weight away, or does nothing: characters are dropped
(`charBytes_cases`), a percent sign with two digits becomes one byte (`decode_cases`), and a dot
segment is left out, maybe with the segment in front of it (`weight_walk_lt`).

So a path that is read with the weight of its text was not changed at all. That tells which texts
arrive as they are, without a look at what each of the steps does to the others
(`decoded_walk_eq_iff`).
-/

namespace UaaAdmin

namespace Text

/-! ## Bytes of characters -/

namespace Utf8

/-- The bytes of some characters. -/
def charBytes (cs : List Char) : List UInt8 := cs.flatMap String.utf8EncodeChar

@[simp] theorem charBytes_cons (c : Char) (cs : List Char) :
    charBytes (c :: cs) = String.utf8EncodeChar c ++ charBytes cs := rfl

@[simp] theorem charBytes_append (cs ds : List Char) :
    charBytes (cs ++ ds) = charBytes cs ++ charBytes ds :=
  List.flatMap_append

/-- Characters are told by their bytes. -/
theorem charBytes_injective : Function.Injective charBytes := by
  intro cs ds h
  have hmap : cs.map some = ds.map some := by
    rw [← decode_encodeChars, ← decode_encodeChars]
    exact congrArg decode h
  exact List.map_injective_iff.2 (fun _ _ => Option.some.inj) hmap

/-- Texts are told by their bytes. -/
theorem encode_injective : Function.Injective encode := fun _ _ h =>
  String.toList_inj.1 (charBytes_injective h)

theorem length_utf8EncodeChar_pos (c : Char) : 0 < (String.utf8EncodeChar c).length :=
  List.length_pos_of_ne_nil (Percent.utf8EncodeChar_ne_nil c)

/-- There are no fewer bytes than characters. -/
theorem length_le_charBytes (cs : List Char) : cs.length ≤ (charBytes cs).length := by
  induction cs with
  | nil => exact le_rfl
  | cons c cs ih =>
    have hpos := length_utf8EncodeChar_pos c
    rw [charBytes_cons, List.length_append, List.length_cons]
    omega

/-- What is left of some characters has less bytes, unless all are left. -/
theorem charBytes_cases {cs ds : List Char} (h : cs.Sublist ds) :
    cs = ds ∨ (charBytes cs).length < (charBytes ds).length := by
  induction h with
  | slnil => exact .inl rfl
  | cons c _ ih =>
    have hpos := length_utf8EncodeChar_pos c
    rw [charBytes_cons, List.length_append]
    rcases ih with rfl | ih
    · exact .inr (by omega)
    · exact .inr (by omega)
  | cons_cons c _ ih =>
    rw [charBytes_cons, charBytes_cons, List.length_append, List.length_append]
    rcases ih with rfl | ih
    · exact .inl rfl
    · exact .inr (by omega)

end Utf8

/-! ## Reading percent signs -/

namespace Percent

open Utf8 (charBytes charBytes_cons)

/-- An encoded byte begins with two digits. -/
theorem exists_of_pair? {cs : List Char} {n : Nat} (h : pair? cs = some n) :
    ∃ a b rest, cs = a :: b :: rest ∧ (digit? a).isSome ∧ (digit? b).isSome := by
  rcases cs with _ | ⟨a, _ | ⟨b, rest⟩⟩
  · cases h
  · cases h
  · obtain ⟨m, hm, h⟩ := Option.bind_eq_some_iff.mp h
    obtain ⟨k, hk, -⟩ := Option.bind_eq_some_iff.mp h
    exact ⟨a, b, rest, rfl, by rw [hm]; rfl, by rw [hk]; rfl⟩

/-- Digits are plain. -/
theorem toNat_lt_of_digit? {c : Char} (h : (digit? c).isSome) : c.toNat < 0x80 := by
  have hrange {a b : Char} (h : (decide (a ≤ c) && decide (c ≤ b)) = true) (hb : b.toNat < 0x80) :
      c.toNat < 0x80 :=
    Nat.lt_of_le_of_lt (of_decide_eq_true (Bool.and_eq_true_iff.1 h).2) hb
  unfold digit? at h
  split at h
  · exact hrange ‹_› (by decide)
  · split at h
    · exact hrange ‹_› (by decide)
    · split at h
      · exact hrange ‹_› (by decide)
      · cases h

theorem decode_nil : decode [] = [] := rfl

/-- A percent sign in front of two digits gives their byte. -/
theorem decode_pair {cs : List Char} {n : Nat} (h : pair? cs = some n) :
    decode ('%' :: cs) = UInt8.ofNat n :: decodeAfter 2 cs := by
  rw [decode, decodeAfter, if_pos rfl, h]

/-- A character that begins no encoded byte gives its own bytes. -/
theorem decode_char {c : Char} {cs : List Char} (h : c = '%' → pair? cs = none) :
    decode (c :: cs) = String.utf8EncodeChar c ++ decode cs := by
  have hnone : (if c = '%' then pair? cs else none) = none := by
    split
    · exact h ‹_›
    · rfl
  rw [decode, decodeAfter, hnone]
  rfl

/-- The first character is a percent sign with two digits behind it, or it stands for itself. -/
theorem decode_cons_cases (c : Char) (cs : List Char) :
    (∃ a b rest n, c = '%' ∧ cs = a :: b :: rest ∧ (digit? a).isSome ∧ (digit? b).isSome ∧
      (∀ ds, pair? (a :: b :: ds) = some n) ∧ decode (c :: cs) = UInt8.ofNat n :: decode rest) ∨
    ((c = '%' → pair? cs = none) ∧ decode (c :: cs) = String.utf8EncodeChar c ++ decode cs) := by
  by_cases hpair : c = '%' ∧ ∃ n, pair? cs = some n
  · obtain ⟨rfl, n, hn⟩ := hpair
    obtain ⟨a, b, rest, rfl, ha, hb⟩ := exists_of_pair? hn
    exact .inl ⟨a, b, rest, n, rfl, rfl, ha, hb, fun _ => hn, decode_pair hn⟩
  · have hnone : c = '%' → pair? cs = none := fun hc =>
      Option.eq_none_iff_forall_ne_some.2 fun n hn => hpair ⟨hc, n, hn⟩
    exact .inr ⟨hnone, decode_char hnone⟩

/-- A text is read as its own bytes, or as less of them. -/
theorem decode_cases (cs : List Char) :
    decode cs = charBytes cs ∨ (decode cs).length < (charBytes cs).length := by
  induction hn : cs.length using Nat.strong_induction_on generalizing cs with
  | _ n ih =>
    subst hn
    rcases cs with _ | ⟨c, cs⟩
    · exact .inl rfl
    · rcases decode_cons_cases c cs with ⟨a, b, rest, n, rfl, rfl, -, -, -, hread⟩ | ⟨-, hread⟩
      · -- Three characters give one byte.
        have hrest : (decode rest).length ≤ (charBytes rest).length := by
          rcases ih rest.length (by simp only [List.length_cons]; omega) rest rfl with h | h
          · rw [h]
          · exact h.le
        have hmore := Utf8.length_le_charBytes ['%', a, b]
        have hsplit : charBytes ('%' :: a :: b :: rest) = charBytes ['%', a, b] ++ charBytes rest :=
          Utf8.charBytes_append ['%', a, b] rest
        rw [hread, hsplit, List.length_append, List.length_cons]
        simp only [List.length_cons, List.length_nil] at hmore
        exact .inr (by omega)
      · rw [hread, charBytes_cons]
        rcases ih cs.length (Nat.lt_succ_self _) cs rfl with h | h
        · exact .inl (by rw [h])
        · exact .inr (by rw [List.length_append, List.length_append]; omega)

/-- Decoding does not lengthen a text. -/
theorem length_decode_le (cs : List Char) : (decode cs).length ≤ (charBytes cs).length := by
  rcases decode_cases cs with h | h
  · rw [h]
  · exact h.le

/-- Something is decoded to something. -/
theorem decode_ne_nil {cs : List Char} (h : cs ≠ []) : decode cs ≠ [] := by
  obtain ⟨c, cs, rfl⟩ := List.exists_cons_of_ne_nil h
  rcases decode_cons_cases c cs with ⟨a, b, rest, n, -, -, -, -, -, hread⟩ | ⟨-, hread⟩
  · rw [hread]
    exact List.cons_ne_nil _ _
  · rw [hread]
    exact List.append_ne_nil_of_left_ne_nil (utf8EncodeChar_ne_nil c) _

/-! ## Reading encoded text -/

section

variable {keep : Char → Bool} {c : Char}

theorem encodeChars_cons_kept (h : c.toNat < 0x80 ∧ keep c = true) (cs : List Char) :
    encodeChars keep (c :: cs) = c :: encodeChars keep cs := by
  rw [encodeChars, List.flatMap_cons, encodeChar_kept h.1 h.2]
  rfl

/-- What is encoded is decoded to its bytes. -/
theorem decode_encodeChars_cons_not_kept (h : ¬(c.toNat < 0x80 ∧ keep c = true)) (cs : List Char) :
    decode (encodeChars keep (c :: cs))
      = String.utf8EncodeChar c ++ decode (encodeChars keep cs) := by
  have hbytes (bs : List UInt8) (hbs : ∀ b ∈ bs, b ∈ String.utf8EncodeChar c) :
      decode (encodeBytes keep bs ++ encodeChars keep cs) = bs ++ decode (encodeChars keep cs) := by
    induction bs with
    | nil => rfl
    | cons b bs ih =>
      obtain ⟨hb, hbs⟩ := List.forall_mem_cons.1 hbs
      rw [encodeBytes, List.flatMap_cons, (encodeByte_not_kept h hb).1, List.append_assoc]
      show decode ('%' :: digit (b.toNat / 16) :: digit (b.toNat % 16) :: _) = _
      rw [decode_pair (pair?_digits b _), UInt8.ofNat_toNat]
      exact congrArg (b :: ·) (ih hbs)
  rw [encodeChars, List.flatMap_cons]
  exact hbytes _ fun _ hb => hb

/-- What is encoded begins with a percent sign. -/
theorem head?_encodeChars_not_kept (h : ¬(c.toNat < 0x80 ∧ keep c = true)) (cs : List Char) :
    (encodeChars keep (c :: cs)).head? = some '%' := by
  obtain ⟨b, bytes, hbytes⟩ := List.exists_cons_of_ne_nil (utf8EncodeChar_ne_nil c)
  have hb := (encodeByte_not_kept h (b := b) (by rw [hbytes]; exact List.mem_cons_self)).1
  rw [encodeChars, List.flatMap_cons, encodeChar, hbytes, encodeBytes, List.flatMap_cons, hb]
  rfl

/-- Encoding puts no digit in front, but for one that was there. -/
theorem of_encodeChars_eq_cons {a : Char} {cs ds : List Char} (ha : (digit? a).isSome)
    (h : encodeChars keep cs = a :: ds) : ∃ cs', cs = a :: cs' ∧ encodeChars keep cs' = ds := by
  rcases cs with _ | ⟨c, cs⟩
  · cases h
  · by_cases hc : c.toNat < 0x80 ∧ keep c = true
    · rw [encodeChars_cons_kept hc] at h
      obtain ⟨rfl, rfl⟩ := List.cons.inj h
      exact ⟨cs, rfl, rfl⟩
    · have hhead := head?_encodeChars_not_kept hc cs
      rw [h] at hhead
      obtain rfl := Option.some.inj hhead
      exact absurd ha (by decide)

/-- Encoding does not put two digits where there were none. -/
theorem pair?_encodeChars {cs : List Char} (h : pair? cs = none) :
    pair? (encodeChars keep cs) = none := by
  refine Option.eq_none_iff_forall_ne_some.2 fun n hn => ?_
  obtain ⟨a, b, rest, hencoded, ha, hb⟩ := exists_of_pair? hn
  rw [hencoded] at hn
  obtain ⟨cs, rfl, hcs⟩ := of_encodeChars_eq_cons ha hencoded
  obtain ⟨cs, rfl, -⟩ := of_encodeChars_eq_cons hb hcs
  have hsame : pair? (a :: b :: cs) = some n := hn
  rw [h] at hsame
  cases hsame

/-- Encoding does not change what is read, if percent signs and the digits behind them are kept. -/
theorem decode_encodeChars (hpercent : keep '%' = true)
    (hdigit : ∀ c, (digit? c).isSome → c.toNat < 0x80 ∧ keep c = true) (cs : List Char) :
    decode (encodeChars keep cs) = decode cs := by
  induction hn : cs.length using Nat.strong_induction_on generalizing cs with
  | _ n ih =>
    subst hn
    rcases cs with _ | ⟨c, cs⟩
    · rfl
    · rcases decode_cons_cases c cs with
        ⟨a, b, rest, n, rfl, rfl, ha, hb, hpair, hread⟩ | ⟨hnone, hread⟩
      · rw [hread, encodeChars_cons_kept ⟨by decide, hpercent⟩, encodeChars_cons_kept (hdigit a ha),
          encodeChars_cons_kept (hdigit b hb), decode_pair (hpair _)]
        exact congrArg _ (ih rest.length (by simp only [List.length_cons]; omega) rest rfl)
      · have hcs := ih cs.length (Nat.lt_succ_self _) cs rfl
        by_cases hc : c.toNat < 0x80 ∧ keep c = true
        · rw [hread, encodeChars_cons_kept hc,
            decode_char fun h => pair?_encodeChars (hnone h), hcs]
        · rw [hread, decode_encodeChars_cons_not_kept hc, hcs]

end

end Percent

end Text

namespace Url

open Text
open Text.Utf8 (charBytes charBytes_cons)

/-! ## Segments -/

/-- What the segments of a path are read as. -/
def decoded (segments : List String) : List (List UInt8) :=
  segments.map fun s => Percent.decode s.toList

theorem decoded_append (segments segments' : List String) :
    decoded (segments ++ segments') = decoded segments ++ decoded segments' :=
  List.map_append

theorem decoded_cons (s : String) (segments : List String) :
    decoded (s :: segments) = Percent.decode s.toList :: decoded segments := rfl

/-- A path reads what was encoded for it as what was there. -/
theorem decode_keptSegment (done : List String) (cs : List Char) :
    Percent.decode (keptSegment false done cs).toList = Percent.decode cs := by
  have hkept : ∀ n : Fin 0x80, (Percent.digit? (Char.ofNat n)).isSome →
      keptInPath (Char.ofNat n) = true := by
    decide +kernel
  show Percent.decode (encodeText keptInPath cs).toList = _
  rw [toList_encodeText]
  refine Percent.decode_encodeChars (by decide +kernel) (fun c hc => ?_) cs
  have hlt : c.toNat < 0x80 := Percent.toNat_lt_of_digit? hc
  have hc' := hkept ⟨c.toNat, hlt⟩
  rw [Char.ofNat_toNat] at hc'
  exact ⟨hlt, hc' hc⟩

/-- How many bytes segments have, with one for the slash in front of each. -/
def weight : List (List UInt8) → Nat
  | [] => 0
  | bytes :: segments => bytes.length + 1 + weight segments

@[simp] theorem weight_nil : weight [] = 0 := rfl

@[simp] theorem weight_cons (bytes : List UInt8) (segments : List (List UInt8)) :
    weight (bytes :: segments) = bytes.length + 1 + weight segments := rfl

@[simp] theorem weight_append (segments segments' : List (List UInt8)) :
    weight (segments ++ segments') = weight segments + weight segments' := by
  induction segments with
  | nil => exact (Nat.zero_add _).symm
  | cons bytes segments ih => rw [List.cons_append, weight_cons, weight_cons, ih, ← Nat.add_assoc]

theorem weight_decoded_reverse (segments : List String) :
    weight (decoded segments.reverse) = weight (decoded segments) := by
  induction segments with
  | nil => rfl
  | cons s segments ih =>
    rw [List.reverse_cons, decoded_append, weight_append, ih, decoded_cons, weight_cons,
      Nat.add_comm]
    rfl

/-- The raw segment stands for a place. -/
def IsDot (cs : List Char) : Prop := isSingleDot cs = true ∨ isDoubleDot cs = true

/-- Going up makes a place no heavier. -/
theorem weight_above_le (done : List String) :
    weight (decoded (above done)) ≤ weight (decoded done) := by
  cases done with
  | nil => exact le_rfl
  | cons s done =>
    rw [above]
    split
    · exact le_rfl
    · exact Nat.le_add_left _ _

/-- A segment that stands for a place weighs more than the slash in front of it. -/
theorem length_decode_pos_of_isDot {cs : List Char} (h : IsDot cs) :
    0 < (Percent.decode cs).length := by
  refine List.length_pos_of_ne_nil (Percent.decode_ne_nil ?_)
  rintro rfl
  rcases h with h | h <;> cases h

/-- What holds of the plain characters with some small form holds of every character with it. -/
theorem of_toLower {p : Char → Prop} {d : Char} (hd : d.toNat < 0x80)
    (hall : ∀ n : Fin 0x80, (Char.ofNat n).toLower = d → p (Char.ofNat n)) {c : Char}
    (h : c.toLower = d) : p c := by
  have hc : c.toNat < 0x80 := by
    by_contra hc
    rw [Domain.toLower_of_not_plain (by omega)] at h
    exact hc (h ▸ hd)
  have hp := hall ⟨c.toNat, hc⟩
  rw [Char.ofNat_toNat] at hp
  exact hp h

/-- A full stop in the small form of a text is read as one. -/
theorem decode_of_stop {cs rest : List Char} (h : cs.map Char.toLower = '.' :: rest) :
    ∃ cs', Percent.decode cs = 0x2e :: Percent.decode cs' ∧ cs'.map Char.toLower = rest := by
  obtain ⟨c, cs', rfl, hc, hcs'⟩ := List.map_eq_cons_iff.1 h
  obtain rfl : c = '.' := of_toLower (p := (· = '.')) (by decide) (by decide +kernel) hc
  refine ⟨cs', ?_, hcs'⟩
  rw [Percent.decode_char fun hpercent => absurd hpercent (by decide)]
  rfl

/-- A full stop that is encoded is read as one, too. -/
theorem decode_of_encodedStop {cs rest : List Char}
    (h : cs.map Char.toLower = '%' :: '2' :: 'e' :: rest) :
    ∃ cs', Percent.decode cs = 0x2e :: Percent.decode cs' ∧ cs'.map Char.toLower = rest := by
  obtain ⟨c, cs', rfl, hc, htwo⟩ := List.map_eq_cons_iff.1 h
  obtain ⟨a, cs', rfl, ha, he⟩ := List.map_eq_cons_iff.1 htwo
  obtain ⟨b, cs', rfl, hb, hrest⟩ := List.map_eq_cons_iff.1 he
  obtain rfl : c = '%' := of_toLower (p := (· = '%')) (by decide) (by decide +kernel) hc
  obtain rfl : a = '2' := of_toLower (p := (· = '2')) (by decide) (by decide +kernel) ha
  have hdigit : Percent.digit? b = some 14 :=
    of_toLower (p := fun b => Percent.digit? b = some 14) (by decide) (by decide +kernel) hb
  have hpair : Percent.pair? ('2' :: b :: cs') = some 0x2e := by
    rw [Percent.pair?, hdigit]
    rfl
  exact ⟨cs', Percent.decode_pair hpair, hrest⟩

/-- A dot is read as one full stop or two. -/
theorem decode_of_isDot {cs : List Char} (h : IsDot cs) :
    Percent.decode cs = [0x2e] ∨ Percent.decode cs = [0x2e, 0x2e] := by
  have hnil {cs : List Char} (h : cs.map Char.toLower = []) : Percent.decode cs = [] := by
    rw [List.map_eq_nil_iff.1 h]
    rfl
  have hone {cs : List Char} (h : ∃ cs', Percent.decode cs = 0x2e :: Percent.decode cs' ∧
      cs'.map Char.toLower = []) : Percent.decode cs = [0x2e] := by
    obtain ⟨cs', hread, hcs'⟩ := h
    rw [hread, hnil hcs']
  have hforms := mem_dotForms h
  simp only [dotForms, List.map_cons, List.map_nil, List.mem_cons, List.not_mem_nil, or_false]
    at hforms
  rcases hforms with h | h | h | h | h | h
  · exact .inl (hone (decode_of_stop h))
  · exact .inl (hone (decode_of_encodedStop h))
  · obtain ⟨cs', hread, h⟩ := decode_of_stop h
    exact .inr (by rw [hread, hone (decode_of_stop h)])
  · obtain ⟨cs', hread, h⟩ := decode_of_stop h
    exact .inr (by rw [hread, hone (decode_of_encodedStop h)])
  · obtain ⟨cs', hread, h⟩ := decode_of_encodedStop h
    exact .inr (by rw [hread, hone (decode_of_stop h)])
  · obtain ⟨cs', hread, h⟩ := decode_of_encodedStop h
    exact .inr (by rw [hread, hone (decode_of_encodedStop h)])

/-- A text that is read as itself is a dot only if it is written as one. -/
theorem isDot_iff {s : String} (h : Percent.decode s.toList = Utf8.encode s) :
    IsDot s.toList ↔ s = "." ∨ s = ".." := by
  have hself {t : String} (ht : Percent.decode s.toList = Utf8.encode t) : s = t :=
    String.toList_inj.1 (Utf8.charBytes_injective (h.symm.trans ht))
  constructor
  · intro hdot
    rcases decode_of_isDot hdot with hread | hread
    · exact .inl (hself (hread.trans (by decide)))
    · exact .inr (hself (hread.trans (by decide)))
  · rintro (rfl | rfl)
    · exact .inl (by decide)
    · exact .inr (by decide)

/-- A walk over raw segments keeps all of them, if none of them is a dot. -/
theorem decoded_walk (done : List String) {pieces : List (List Char)}
    (h : ∀ cs ∈ pieces, ¬IsDot cs) :
    decoded (walk false done pieces) = decoded done.reverse ++ pieces.map Percent.decode := by
  fun_induction walk false done pieces with
  | case1 done => exact (List.append_nil _).symm
  | case2 done cs hdouble => exact absurd (.inr hdouble) (h cs List.mem_cons_self)
  | case3 done cs hdouble hsingle => exact absurd (.inl hsingle) (h cs List.mem_cons_self)
  | case4 done cs hdouble hsingle =>
    rw [List.reverse_cons, decoded_append, decoded_cons, decode_keptSegment]
    rfl
  | case5 done cs rest hrest hdouble ih => exact absurd (.inr hdouble) (h cs List.mem_cons_self)
  | case6 done cs rest hrest hdouble hsingle ih =>
    exact absurd (.inl hsingle) (h cs List.mem_cons_self)
  | case7 done cs rest hrest hdouble hsingle ih =>
    rw [ih (List.forall_mem_cons.1 h).2, List.reverse_cons, decoded_append, decoded_cons,
      decode_keptSegment, List.append_assoc]
    rfl

/-- A walk over a dot weighs less than the raw segments and what was in front. -/
theorem weight_walk_lt (done : List String) {pieces : List (List Char)}
    (h : ∃ cs ∈ pieces, IsDot cs) :
    weight (decoded (walk false done pieces))
      < weight (decoded done) + weight (pieces.map Percent.decode) := by
  -- Behind the dot there may be others or not.
  have hle {done : List String} {rest : List (List Char)}
      (ih : (∃ cs ∈ rest, IsDot cs) → weight (decoded (walk false done rest))
        < weight (decoded done) + weight (rest.map Percent.decode)) :
      weight (decoded (walk false done rest))
        ≤ weight (decoded done) + weight (rest.map Percent.decode) := by
    by_cases hdots : ∃ cs ∈ rest, IsDot cs
    · exact (ih hdots).le
    · have hall : ∀ cs ∈ rest, ¬IsDot cs := fun cs hcs hdot => hdots ⟨cs, hcs, hdot⟩
      rw [decoded_walk done hall, weight_append, weight_decoded_reverse]
  fun_induction walk false done pieces with
  | case1 done =>
    obtain ⟨cs, hcs, -⟩ := h
    cases hcs
  | case2 done cs hdouble =>
    have hdot := length_decode_pos_of_isDot (.inr hdouble)
    have habove := weight_above_le done
    rw [weight_decoded_reverse, decoded_cons, weight_cons, List.map_singleton, weight_cons,
      weight_nil, String.toList_empty, Percent.decode_nil, List.length_nil]
    omega
  | case3 done cs hdouble hsingle =>
    have hdot := length_decode_pos_of_isDot (.inl hsingle)
    rw [weight_decoded_reverse, decoded_cons, weight_cons, List.map_singleton, weight_cons,
      weight_nil, String.toList_empty, Percent.decode_nil, List.length_nil]
    omega
  | case4 done cs hdouble hsingle =>
    obtain ⟨cs', hcs', hdot⟩ := h
    rw [List.mem_singleton.1 hcs'] at hdot
    exact absurd hdot (not_or.2 ⟨hsingle, hdouble⟩)
  | case5 done cs rest hrest hdouble ih =>
    have habove := weight_above_le done
    have hwalk := hle ih
    rw [List.map_cons, weight_cons]
    omega
  | case6 done cs rest hrest hdouble hsingle ih =>
    have hwalk := hle ih
    rw [List.map_cons, weight_cons]
    omega
  | case7 done cs rest hrest hdouble hsingle ih =>
    obtain ⟨cs', hcs', hdot⟩ := h
    rcases List.mem_cons.1 hcs' with rfl | hcs'
    · exact absurd hdot (not_or.2 ⟨hsingle, hdouble⟩)
    · have hwalk := ih ⟨cs', hcs', hdot⟩
      rw [decoded_cons, weight_cons, decode_keptSegment] at hwalk
      rw [List.map_cons, weight_cons]
      omega

/-! ## Texts -/

/-- What stands between the slashes of a text weighs as much as the text. -/
theorem weight_splitOnP {p : Char → Bool}
    (hp : ∀ c, p c = true → (String.utf8EncodeChar c).length = 1) (cs : List Char) :
    weight ((cs.splitOnP p).map charBytes) = (charBytes cs).length + 1 := by
  induction cs with
  | nil => rfl
  | cons c cs ih =>
    obtain ⟨piece, pieces, hpieces⟩ := List.exists_cons_of_ne_nil (List.splitOnP_ne_nil p cs)
    rw [List.splitOnP_cons_eq_if_modifyHead]
    rw [hpieces, List.map_cons, weight_cons] at ih
    split
    · rename_i hc
      rw [hpieces, List.map_cons, List.map_cons, weight_cons, weight_cons, ih, charBytes_cons,
        List.length_append, hp c hc]
      simp only [charBytes, List.flatMap_nil, List.length_nil]
      omega
    · rw [hpieces, List.modifyHead_cons, List.map_cons, weight_cons, charBytes_cons, charBytes_cons,
        List.length_append, List.length_append]
      omega

/-- A text weighs as much as its segments, one of which has no slash of its own. -/
theorem weight_splitOnP_slash (cs : List Char) :
    weight ((cs.splitOnP (isSlash true)).map charBytes) = (charBytes cs).length + 1 := by
  refine weight_splitOnP (fun c hc => ?_) cs
  simp only [isSlash, Bool.true_and, Bool.or_eq_true, beq_iff_eq] at hc
  rcases hc with rfl | rfl <;> rfl

/-- Segments are read as their own bytes, or they weigh less. -/
theorem weight_decode_cases (pieces : List (List Char)) :
    pieces.map Percent.decode = pieces.map charBytes ∨
      weight (pieces.map Percent.decode) < weight (pieces.map charBytes) := by
  induction pieces with
  | nil => exact .inl rfl
  | cons cs pieces ih =>
    rw [List.map_cons, List.map_cons, weight_cons, weight_cons]
    have hle := Percent.length_decode_le cs
    rcases ih with ih | ih
    · rcases Percent.decode_cases cs with hcs | hcs
      · exact .inl (by rw [hcs, ih])
      · exact .inr (by rw [ih]; omega)
    · exact .inr (by omega)

/-- Path and names weigh the same. -/
theorem weight_pathText (names : List String) :
    (charBytes (pathText names)).length = weight (names.map Utf8.encode) := by
  induction names with
  | nil => rfl
  | cons s names ih =>
    have htext : pathText (s :: names) = '/' :: (s.toList ++ pathText names) := rfl
    have hslash : (String.utf8EncodeChar '/').length = 1 := rfl
    rw [htext, charBytes_cons, List.length_append, Utf8.charBytes_append, List.length_append, ih,
      List.map_cons, weight_cons, hslash, Utf8.encode, charBytes]
    omega

/-- What is left of the text of some names is read as these names behind the directories exactly if
all of it is left, the slashes part the names, and each name is read as itself and is no dot. -/
theorem decoded_walk_eq_iff (dirs : List String) {names : List String} {cs ds : List Char}
    (htext : pathText names = '/' :: ds) (hcs : cs.Sublist ds) :
    decoded (walk false dirs.reverse (cs.splitOnP (isSlash true)))
        = decoded dirs ++ names.map Utf8.encode ↔
      cs = ds ∧ ds.splitOnP (isSlash true) = names.map String.toList ∧
        ∀ s ∈ names, Percent.decode s.toList = Utf8.encode s ∧ ¬IsDot s.toList := by
  have hnames : names.map Utf8.encode = (names.map String.toList).map charBytes := by
    rw [List.map_map]
    rfl
  constructor
  · intro h
    have hweight : weight (decoded (walk false dirs.reverse (cs.splitOnP (isSlash true))))
        = weight (decoded dirs) + (charBytes ds).length + 1 := by
      have hslash : (charBytes ('/' :: ds)).length = (charBytes ds).length + 1 := by
        rw [charBytes_cons, List.length_append, Nat.add_comm]
        rfl
      rw [h, weight_append, ← weight_pathText, htext, hslash, Nat.add_assoc]
    have hpieces := weight_splitOnP_slash cs
    have hleft : (charBytes cs).length ≤ (charBytes ds).length := by
      rcases Utf8.charBytes_cases hcs with rfl | hlt
      exacts [le_rfl, hlt.le]
    have hread : weight ((cs.splitOnP (isSlash true)).map Percent.decode)
        ≤ weight ((cs.splitOnP (isSlash true)).map charBytes) := by
      rcases weight_decode_cases (cs.splitOnP (isSlash true)) with heq | hlt
      exacts [heq ▸ le_rfl, hlt.le]
    -- No step took weight away, so that each of them did nothing.
    have hdots : ∀ piece ∈ cs.splitOnP (isSlash true), ¬IsDot piece := by
      intro piece hpiece hdot
      have hwalk := weight_walk_lt dirs.reverse ⟨piece, hpiece, hdot⟩
      rw [weight_decoded_reverse, hweight] at hwalk
      omega
    rw [decoded_walk _ hdots, List.reverse_reverse] at h hweight
    rw [weight_append] at hweight
    have hdecode := (weight_decode_cases (cs.splitOnP (isSlash true))).resolve_right (by omega)
    obtain rfl : cs = ds := (Utf8.charBytes_cases hcs).resolve_right (by omega)
    have hsplit : cs.splitOnP (isSlash true) = names.map String.toList := by
      rw [hdecode] at h
      exact Utf8.charBytes_injective.list_map ((List.append_cancel_left h).trans hnames)
    rw [hsplit] at hdots hdecode
    refine ⟨rfl, hsplit, fun s hs => ?_⟩
    have hmem : s.toList ∈ names.map String.toList := List.mem_map_of_mem hs
    exact ⟨List.map_inj_left.1 hdecode _ hmem, hdots _ hmem⟩
  · rintro ⟨rfl, hsplit, hread⟩
    have hdots : ∀ piece ∈ names.map String.toList, ¬IsDot piece :=
      List.forall_mem_map.2 fun s hs => (hread s hs).2
    rw [hsplit, decoded_walk _ hdots, List.reverse_reverse, List.map_map]
    exact congrArg _ (List.map_congr_left fun s hs => (hread s hs).1)

end Url

end UaaAdmin
