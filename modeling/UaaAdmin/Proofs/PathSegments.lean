import UaaAdmin.Proofs.DomainHosts
import UaaAdmin.Url.Parser

/-!
# The segments of a path

The path of an address of the web is walked from a text, segment by segment. What is kept are
segments that stand for themselves (`isSegment_of_mem_segmentsOf`): no segment becomes a dot by
being encoded, since a full stop is never encoded. Written down behind slashes, such segments are
walked again to themselves (`segmentsOf_pathText`). Slashes at the end of a text are those of empty
segments, in what is written (`dropEndWhile_pathText`) as in what is read
(`dropEndWhile_segmentsOf_append`).
-/

namespace UaaAdmin

/-! ## Encoded text -/

namespace Text.Percent

/-- A plain character that is kept is written as it is. -/
theorem encodeChar_kept {keep : Char → Bool} {c : Char} (hplain : c.toNat < 0x80)
    (hkeep : keep c = true) : encodeChar keep c = [c] := by
  have hn : (UInt8.ofNat c.toNat).toNat = c.toNat := by
    rw [UInt8.toNat_ofNat']
    exact Nat.mod_eq_of_lt (by omega)
  rw [encodeChar, utf8EncodeChar_plain hplain, encodeBytes, List.flatMap_singleton, encodeByte, hn,
    Char.ofNat_toNat, hkeep, if_pos (by simpa using hplain)]

/-- A text of characters that are kept is kept. -/
theorem encodeChars_kept {keep : Char → Bool} {cs : List Char}
    (h : ∀ c ∈ cs, c.toNat < 0x80 ∧ keep c = true) : encodeChars keep cs = cs := by
  induction cs with
  | nil => rfl
  | cons c cs ih =>
    obtain ⟨hc, hcs⟩ := List.forall_mem_cons.1 h
    rw [encodeChars, List.flatMap_cons, encodeChar_kept hc.1 hc.2]
    exact congrArg (c :: ·) (ih hcs)

/-- The bytes of a character that is not plain are not plain either. -/
theorem not_plain_of_mem_utf8EncodeChar {c : Char} (h : 0x80 ≤ c.toNat) {b : UInt8}
    (hb : b ∈ String.utf8EncodeChar c) : 0x80 ≤ b.toNat := by
  have h : 0x80 ≤ c.val.toNat := h
  have hvalid : c.val.toNat < 0xd800 ∨ 0xdfff < c.val.toNat ∧ c.val.toNat < 0x110000 := c.valid
  unfold String.utf8EncodeChar at hb
  dsimp only at hb
  have hof (n : Nat) : (UInt8.ofNat n).toNat = n % 256 := UInt8.toNat_ofNat'
  generalize c.val.toNat = n at *
  repeat' split at hb
  all_goals
    simp only [List.mem_cons, List.not_mem_nil, or_false] at hb
    rcases hb with rfl | rfl | rfl | rfl <;> rw [hof] <;> omega

theorem utf8EncodeChar_ne_nil (c : Char) : String.utf8EncodeChar c ≠ [] := by
  unfold String.utf8EncodeChar
  dsimp only
  repeat' split
  all_goals exact List.cons_ne_nil _ _

/-- The bytes of a character that is not kept are not kept. -/
theorem encodeByte_not_kept {keep : Char → Bool} {c : Char}
    (h : ¬(c.toNat < 0x80 ∧ keep c = true)) {b : UInt8} (hb : b ∈ String.utf8EncodeChar c) :
    encodeByte keep b = ['%', digit (b.toNat / 16), digit (b.toNat % 16)] ∧
      (b.toNat < 0x80 → keep (Char.ofNat b.toNat) = false) := by
  have hkeep : b.toNat < 0x80 → keep (Char.ofNat b.toNat) = false := by
    intro hplain
    by_cases hc : c.toNat < 0x80
    · rw [utf8EncodeChar_plain hc, List.mem_singleton] at hb
      have hn : b.toNat = c.toNat := by
        rw [hb, UInt8.toNat_ofNat']
        exact Nat.mod_eq_of_lt (by omega)
      rw [hn, Char.ofNat_toNat]
      exact Bool.eq_false_iff.2 fun hkeep => h ⟨hc, hkeep⟩
    · have hhigh := not_plain_of_mem_utf8EncodeChar (by omega) hb
      omega
  refine ⟨if_neg ?_, hkeep⟩
  rw [Bool.and_eq_true, decide_eq_true_eq]
  rintro ⟨hplain, hkept⟩
  rw [hkeep hplain] at hkept
  cases hkept

/-- What stands in an encoded text: a character that was there and is kept, or what an encoded byte
is written with. -/
theorem mem_encodeChars {keep : Char → Bool} {cs : List Char} {d : Char}
    (h : d ∈ encodeChars keep cs) :
    (d.toNat < 0x80 ∧ keep d = true ∧ d ∈ cs) ∨ d = '%' ∨ ∃ n : Fin 16, d = digit n := by
  obtain ⟨c, hc, hd⟩ := List.mem_flatMap.1 h
  by_cases hkept : c.toNat < 0x80 ∧ keep c = true
  · rw [encodeChar_kept hkept.1 hkept.2, List.mem_singleton] at hd
    subst hd
    exact .inl ⟨hkept.1, hkept.2, hc⟩
  · obtain ⟨b, hb, hd⟩ := List.mem_flatMap.1 hd
    rw [(encodeByte_not_kept hkept hb).1] at hd
    have hlt := b.toNat_lt
    simp only [List.mem_cons, List.not_mem_nil, or_false] at hd
    rcases hd with rfl | rfl | rfl
    · exact .inr (.inl rfl)
    · exact .inr (.inr ⟨⟨b.toNat / 16, by omega⟩, rfl⟩)
    · exact .inr (.inr ⟨⟨b.toNat % 16, by omega⟩, rfl⟩)

/-- Either all is kept, or the encoded form of a byte that is not kept stands in the text. -/
theorem encodeChars_cases (keep : Char → Bool) (cs : List Char) :
    encodeChars keep cs = cs ∨
      ∃ front b back, encodeChars keep cs
          = front ++ '%' :: digit (b / 16) :: digit (b % 16) :: back ∧
        b < 256 ∧ (b < 0x80 → keep (Char.ofNat b) = false) := by
  by_cases hall : ∀ c ∈ cs, c.toNat < 0x80 ∧ keep c = true
  · exact .inl (encodeChars_kept hall)
  · simp only [not_forall] at hall
    obtain ⟨c, hc, hkept⟩ := hall
    obtain ⟨before, after, rfl⟩ := List.append_of_mem hc
    obtain ⟨b, bytes, hbytes⟩ := List.exists_cons_of_ne_nil (utf8EncodeChar_ne_nil c)
    obtain ⟨hencoded, hkeep⟩ := encodeByte_not_kept (b := b) hkept (by rw [hbytes]; simp)
    refine .inr ⟨encodeChars keep before, b.toNat, encodeBytes keep bytes ++ encodeChars keep after,
      ?_, b.toNat_lt, hkeep⟩
    simp only [encodeChars, List.flatMap_append, List.flatMap_cons, encodeChar, hbytes, encodeBytes,
      hencoded, List.cons_append, List.nil_append]

end Text.Percent

namespace Url

open Text

theorem toList_encodeText (keep : Char → Bool) (cs : List Char) :
    (encodeText keep cs).toList = Percent.encodeChars keep cs :=
  String.toList_ofList

/-- If what encoded bytes are written with is kept, an encoded text is kept. -/
theorem kept_of_mem_encodeText {keep : Char → Bool} (hpercent : keep '%' = true)
    (hdigit : ∀ n : Fin 16, keep (Percent.digit n) = true) (cs : List Char) :
    ∀ c ∈ (encodeText keep cs).toList, keep c = true := by
  intro c hc
  rw [toList_encodeText] at hc
  rcases Percent.mem_encodeChars hc with ⟨-, hkept, -⟩ | rfl | ⟨n, rfl⟩
  · exact hkept
  · exact hpercent
  · exact hdigit n

/-- An encoded user part has only characters that are kept. -/
theorem kept_of_mem_encodeUser (cs : List Char) :
    ∀ c ∈ (encodeText keptInUser cs).toList, keptInUser c = true :=
  kept_of_mem_encodeText (by decide +kernel) (by decide +kernel) cs

/-- What is kept is not what is encoded. -/
theorem ne_of_kept {keep : Char → Bool} {c d : Char} (hc : keep c = true) (hd : keep d = false) :
    c ≠ d := by
  rintro rfl
  rw [hc] at hd
  cases hd

/-- What a fragment keeps is visible and plain. -/
theorem keptInFragment_bounds {c : Char} (h : keptInFragment c = true) :
    0x20 < c.toNat ∧ c.toNat < 0x80 := by
  simp only [keptInFragment, Bool.and_eq_true, decide_eq_true_eq] at h
  omega

/-- What a path keeps is visible and plain. -/
theorem keptInPath_bounds {c : Char} (h : keptInPath c = true) :
    0x20 < c.toNat ∧ c.toNat < 0x80 := by
  rw [keptInPath, Bool.and_eq_true] at h
  exact keptInFragment_bounds h.1

/-- What a user part keeps is visible and plain. -/
theorem keptInUser_bounds {c : Char} (h : keptInUser c = true) :
    0x20 < c.toNat ∧ c.toNat < 0x80 := by
  rw [keptInUser, Bool.and_eq_true] at h
  exact keptInPath_bounds h.1

/-! ## Segments -/

/-- The segment is one that a path keeps: its characters stand for themselves, and it neither is a
dot nor holds a slash. -/
structure IsSegment (s : String) : Prop where
  kept : ∀ c ∈ s.toList, keptInPath c = true
  whole : ∀ c ∈ s.toList, isSlash true c = false
  notSingle : isSingleDot s.toList = false
  notDouble : isDoubleDot s.toList = false

instance (s : String) : Decidable (IsSegment s) :=
  decidable_of_iff ((s.toList.all fun c => keptInPath c = true ∧ isSlash true c = false) = true ∧
      isSingleDot s.toList = false ∧ isDoubleDot s.toList = false)
    ⟨fun h => ⟨fun c hc => (List.all_iff_forall_prop.1 h.1 c hc).1,
      fun c hc => (List.all_iff_forall_prop.1 h.1 c hc).2, h.2.1, h.2.2⟩,
    fun h => ⟨List.all_iff_forall_prop.2 fun c hc => ⟨h.1 c hc, h.2 c hc⟩, h.3, h.4⟩⟩

/-- The small forms of the segments that stand for a place. -/
def dotForms : List (List Char) :=
  [".", "%2e", "..", ".%2e", "%2e.", "%2e%2e"].map String.toList

theorem mem_dotForms {cs : List Char} (h : isSingleDot cs = true ∨ isDoubleDot cs = true) :
    cs.map Char.toLower ∈ dotForms := by
  simp only [isSingleDot, isDoubleDot, Bool.or_eq_true, beq_iff_eq] at h
  simp only [dotForms, List.map_cons, List.map_nil, List.mem_cons]
  tauto

/-- In them a percent sign begins an encoded full stop. -/
theorem percent_in_dotForms : ∀ form ∈ dotForms, ∀ i < form.length, form[i]? = some '%' →
    form[i + 1]? = some '2' ∧ form[i + 2]? = some 'e' := by
  decide +kernel

/-- No segment becomes a dot by being encoded, since full stops are not encoded. -/
theorem mem_dotForms_of_encoded {cs : List Char}
    (h : (Percent.encodeChars keptInPath cs).map Char.toLower ∈ dotForms) :
    Percent.encodeChars keptInPath cs = cs := by
  rcases Percent.encodeChars_cases keptInPath cs with hkept | ⟨front, b, back, hcs, hb, hkeep⟩
  · exact hkept
  · exfalso
    rw [hcs, List.map_append] at h
    have hplace (i : Nat) (ys : List Char) :
        (front.map Char.toLower ++ ys)[front.length + i]? = ys[i]? := by
      rw [List.getElem?_append_right (by simp), List.length_map, Nat.add_sub_cancel_left]
    obtain ⟨htwo, he⟩ := percent_in_dotForms _ h (front.length + 0) (by simp) (hplace 0 _)
    rw [Nat.add_zero] at htwo he
    rw [hplace 1] at htwo
    rw [hplace 2] at he
    have hhigh : ∀ n : Fin 16, (Percent.digit n).toLower = '2' → n.val = 2 := by decide +kernel
    have hlow : ∀ n : Fin 16, (Percent.digit n).toLower = 'e' → n.val = 14 := by decide +kernel
    have hfirst := hhigh ⟨b / 16, by omega⟩ (Option.some.inj htwo)
    have hsecond := hlow ⟨b % 16, by omega⟩ (Option.some.inj he)
    dsimp only at hfirst hsecond
    obtain rfl : b = 0x2e := by omega
    exact absurd (hkeep (by decide)) (by decide +kernel)

/-- Text without slashes that is no dot is encoded as a segment. -/
theorem isSegment_encodeText {cs : List Char} (hwhole : ∀ c ∈ cs, isSlash true c = false)
    (hsingle : isSingleDot cs = false) (hdouble : isDoubleDot cs = false) :
    IsSegment (encodeText keptInPath cs) := by
  have hdots : ¬(isSingleDot (encodeText keptInPath cs).toList = true ∨
      isDoubleDot (encodeText keptInPath cs).toList = true) := by
    intro h
    rw [toList_encodeText] at h
    rw [mem_dotForms_of_encoded (mem_dotForms h), hsingle, hdouble] at h
    rcases h with h | h <;> cases h
  rw [not_or, Bool.not_eq_true, Bool.not_eq_true] at hdots
  refine ⟨kept_of_mem_encodeText (by decide +kernel) (by decide +kernel) cs, ?_, hdots.1, hdots.2⟩
  intro c hc
  rw [toList_encodeText] at hc
  rcases Percent.mem_encodeChars hc with ⟨-, -, hmem⟩ | rfl | ⟨n, rfl⟩
  · exact hwhole c hmem
  · decide
  · have hall : ∀ n : Fin 16, isSlash true (Percent.digit n) = false := by decide +kernel
    exact hall n

/-- Nothing at all is a segment. -/
theorem isSegment_empty : IsSegment "" :=
  ⟨List.forall_mem_nil _, List.forall_mem_nil _, by decide +kernel, by decide +kernel⟩

theorem mem_above {done : List String} {s : String} (h : s ∈ above done) : s ∈ done := by
  cases done with
  | nil => exact h
  | cons last rest =>
    rw [above] at h
    split at h
    · exact h
    · exact List.mem_cons_of_mem last h

/-- What is kept on the way is a segment. -/
theorem isSegment_kept {done : List String} {cs : List Char}
    (hwhole : ∀ c ∈ cs, isSlash true c = false) (hdouble : ¬isDoubleDot cs = true)
    (hsingle : ¬isSingleDot cs = true) : IsSegment (keptSegment false done cs) :=
  isSegment_encodeText hwhole (Bool.eq_false_iff.2 hsingle) (Bool.eq_false_iff.2 hdouble)

/-- Every step of a walk keeps segments only. -/
theorem isSegment_of_mem_walk {done : List String} {pieces : List (List Char)}
    (hdone : ∀ s ∈ done, IsSegment s) (hpieces : ∀ cs ∈ pieces, ∀ c ∈ cs, isSlash true c = false) :
    ∀ s ∈ walk false done pieces, IsSegment s := by
  have habove {done : List String} (h : ∀ s ∈ done, IsSegment s) : ∀ s ∈ above done, IsSegment s :=
    fun s hs => h s (mem_above hs)
  fun_induction walk false done pieces with
  | case1 done => exact fun s hs => hdone s (List.mem_reverse.1 hs)
  | case2 done cs hdouble =>
    intro s hs
    rcases List.mem_cons.1 (List.mem_reverse.1 hs) with rfl | hs
    · exact isSegment_empty
    · exact habove hdone s hs
  | case3 done cs hdouble hsingle =>
    intro s hs
    rcases List.mem_cons.1 (List.mem_reverse.1 hs) with rfl | hs
    · exact isSegment_empty
    · exact hdone s hs
  | case4 done cs hdouble hsingle =>
    intro s hs
    rcases List.mem_cons.1 (List.mem_reverse.1 hs) with rfl | hs
    · exact isSegment_kept (hpieces cs List.mem_cons_self) hdouble hsingle
    · exact hdone s hs
  | case5 done cs rest hrest hdouble ih =>
    exact ih (habove hdone) (List.forall_mem_cons.1 hpieces).2
  | case6 done cs rest hrest hdouble hsingle ih =>
    exact ih hdone (List.forall_mem_cons.1 hpieces).2
  | case7 done cs rest hrest hdouble hsingle ih =>
    obtain ⟨hcs, hpieces⟩ := List.forall_mem_cons.1 hpieces
    exact ih (List.forall_mem_cons.2 ⟨isSegment_kept hcs hdouble hsingle, hdone⟩) hpieces

/-- A walk of at least one step ends in a segment. -/
theorem walk_ne_nil {done : List String} {pieces : List (List Char)} (h : pieces ≠ []) :
    walk false done pieces ≠ [] := by
  fun_induction walk false done pieces with
  | case1 done => exact absurd rfl h
  | case2 done cs hdouble => simp
  | case3 done cs hdouble hsingle => simp
  | case4 done cs hdouble hsingle => simp
  | case5 done cs rest hrest hdouble ih => exact ih hrest
  | case6 done cs rest hrest hdouble hsingle ih => exact ih hrest
  | case7 done cs rest hrest hdouble hsingle ih => exact ih hrest

theorem not_mark_of_mem_splitOnP {α : Type} {p : α → Bool} {l part : List α}
    (h : part ∈ l.splitOnP p) : ∀ a ∈ part, p a = false := by
  induction l generalizing part with
  | nil =>
    rw [List.splitOnP_nil, List.mem_singleton] at h
    subst h
    exact List.forall_mem_nil _
  | cons b l ih =>
    rw [List.splitOnP_cons_eq_if_modifyHead] at h
    split at h
    · rcases List.mem_cons.1 h with rfl | h
      · exact List.forall_mem_nil _
      · exact ih h
    · rename_i hb
      obtain ⟨first, rest, hparts⟩ := List.exists_cons_of_ne_nil (List.splitOnP_ne_nil p l)
      rw [hparts] at h ih
      rcases List.mem_cons.1 h with rfl | h
      · exact List.forall_mem_cons.2 ⟨Bool.eq_false_iff.2 hb, ih List.mem_cons_self⟩
      · exact ih (List.mem_cons_of_mem first h)

/-- A path is read as segments. -/
theorem isSegment_of_mem_segmentsOf {cs : List Char} :
    ∀ s ∈ segmentsOf true cs, IsSegment s :=
  isSegment_of_mem_walk (List.forall_mem_nil _) fun _ hpiece => not_mark_of_mem_splitOnP hpiece

/-- A path has at least one segment, if only an empty one. -/
theorem segmentsOf_ne_nil (cs : List Char) : segmentsOf true cs ≠ [] :=
  walk_ne_nil (List.splitOnP_ne_nil _ _)

/-! ## Slashes at the end -/

/-- An empty step at the end of a walk gives an empty segment at most. -/
theorem dropEndWhile_walk_concat {done : List String} {pieces : List (List Char)}
    (h : pieces ≠ []) :
    dropEndWhile (· == "") (walk false done (pieces ++ [[]]))
      = dropEndWhile (· == "") (walk false done pieces) := by
  have hempty (done : List String) : walk false done [[]] = done.reverse ++ [""] :=
    List.reverse_cons
  fun_induction walk false done pieces with
  | case1 done => exact absurd rfl h
  | case2 done cs hdouble =>
    rw [List.singleton_append, walk, if_pos hdouble, hempty, List.reverse_cons]
    simp
  | case3 done cs hdouble hsingle =>
    rw [List.singleton_append, walk, if_neg hdouble, if_pos hsingle, hempty, List.reverse_cons]
    simp
  | case4 done cs hdouble hsingle =>
    rw [List.singleton_append, walk, if_neg hdouble, if_neg hsingle, hempty]
    · exact dropEndWhile_concat _ _ ""
    · simp
  | case5 done cs rest hrest hdouble ih =>
    rw [List.cons_append, walk, if_pos hdouble, ih hrest]
    simp
  | case6 done cs rest hrest hdouble hsingle ih =>
    rw [List.cons_append, walk, if_neg hdouble, if_pos hsingle, ih hrest]
    simp
  | case7 done cs rest hrest hdouble hsingle ih =>
    rw [List.cons_append, walk, if_neg hdouble, if_neg hsingle, ih hrest]
    simp

/-- Up to empty segments at the end, another slash there makes no difference. -/
theorem dropEndWhile_segmentsOf_concat (cs : List Char) :
    dropEndWhile (· == "") (segmentsOf true (cs ++ ['/']))
      = dropEndWhile (· == "") (segmentsOf true cs) := by
  cases cs with
  | nil => rfl
  | cons c cs =>
    have hdrop : dropSlash true (c :: cs ++ ['/']) = dropSlash true (c :: cs) ++ ['/'] := by
      rw [List.cons_append, dropSlash, dropSlash]
      split <;> rfl
    rw [segmentsOf, hdrop, List.splitOnP_append_cons _ _ (by decide), List.splitOnP_nil]
    exact dropEndWhile_walk_concat (List.splitOnP_ne_nil _ _)

/-- Slashes at the end give empty segments at the end. -/
theorem dropEndWhile_segmentsOf_append (cs : List Char) {slashes : List Char}
    (h : ∀ c ∈ slashes, c = '/') :
    dropEndWhile (· == "") (segmentsOf true (cs ++ slashes))
      = dropEndWhile (· == "") (segmentsOf true cs) := by
  induction slashes using List.reverseRecOn with
  | nil => rw [List.append_nil]
  | append_singleton slashes c ih =>
    obtain ⟨hslashes, hc⟩ := List.forall_mem_append.1 h
    rw [hc c (List.mem_singleton_self c), ← List.append_assoc, dropEndWhile_segmentsOf_concat,
      ih hslashes]

/-! ## Reading what was written -/

/-- Written form of segments. -/
def pathText (segments : List String) : List Char :=
  segments.flatMap fun s => '/' :: s.toList

theorem toList_print_segments (segments : List String) :
    (Path.segments segments).print.toList = pathText segments := by
  rw [Path.print, String.toList_join, List.flatMap_map, pathText]
  congr 1
  funext s
  rw [String.toList_append]
  rfl

/-- A written path has slashes and the characters of its segments. -/
theorem mem_pathText {segments : List String} {c : Char} (h : c ∈ pathText segments) :
    c = '/' ∨ ∃ s ∈ segments, c ∈ s.toList := by
  obtain ⟨s, hs, hc⟩ := List.mem_flatMap.1 h
  exact (List.mem_cons.1 hc).imp_right fun hc => ⟨s, hs, hc⟩

/-- Segments are parted at the slashes in front of them. -/
theorem splitOnP_pathText {segments : List String} (hne : segments ≠ [])
    (h : ∀ s ∈ segments, ∀ c ∈ s.toList, isSlash true c = false) :
    (dropSlash true (pathText segments)).splitOnP (isSlash true) = segments.map String.toList := by
  induction segments with
  | nil => exact absurd rfl hne
  | cons s segments ih =>
    obtain ⟨hs, hsegments⟩ := List.forall_mem_cons.1 h
    have hdrop : dropSlash true (pathText (s :: segments)) = s.toList ++ pathText segments := rfl
    rw [hdrop]
    cases segments with
    | nil =>
      rw [pathText, List.flatMap_nil, List.append_nil, List.splitOnP_eq_singleton hs]
      rfl
    | cons t segments =>
      have htext : pathText (t :: segments)
          = '/' :: dropSlash true (pathText (t :: segments)) := rfl
      rw [htext, List.splitOnP_append_cons_of_forall_mem hs '/' (by decide),
        ih (List.cons_ne_nil t segments) hsegments]
      rfl

/-- A segment is kept as it is. -/
theorem keptSegment_of_isSegment {done : List String} {s : String} (h : IsSegment s) :
    keptSegment false done s.toList = s := by
  show encodeText keptInPath s.toList = s
  rw [encodeText, Percent.encodeChars_kept fun c hc =>
    ⟨(keptInPath_bounds (h.kept c hc)).2, h.kept c hc⟩, String.ofList_toList]

/-- A walk over segments that are kept goes down only. -/
theorem walk_segments (done : List String) {segments : List String}
    (h : ∀ s ∈ segments, IsSegment s) :
    walk false done (segments.map String.toList) = done.reverse ++ segments := by
  induction segments generalizing done with
  | nil => exact (List.append_nil _).symm
  | cons s segments ih =>
    obtain ⟨hs, hsegments⟩ := List.forall_mem_cons.1 h
    cases segments with
    | nil =>
      rw [List.map_singleton, walk, if_neg (by simp [hs.notDouble]),
        if_neg (by simp [hs.notSingle]), keptSegment_of_isSegment hs, List.reverse_cons]
    | cons t segments =>
      rw [List.map_cons, walk, if_neg (by simp [hs.notDouble]), if_neg (by simp [hs.notSingle]),
        keptSegment_of_isSegment hs, ih _ hsegments, List.reverse_cons, List.append_assoc]
      · rfl
      · simp

/-- Segments that are written are read as themselves. -/
theorem segmentsOf_pathText {segments : List String} (hne : segments ≠ [])
    (h : ∀ s ∈ segments, IsSegment s) : segmentsOf true (pathText segments) = segments := by
  rw [segmentsOf, splitOnP_pathText hne fun s hs => (h s hs).whole, walk_segments [] h]
  rfl

theorem pathText_concat (segments : List String) (s : String) :
    pathText (segments ++ [s]) = pathText segments ++ '/' :: s.toList := by
  rw [pathText, List.flatMap_append, List.flatMap_singleton, pathText]

/-- Slashes at the end are those of empty segments. -/
theorem dropEndWhile_pathText {front : List Char} (hfront : front.getLast? ≠ some '/')
    {segments : List String} (h : ∀ s ∈ segments, '/' ∉ s.toList) :
    dropEndWhile (· == '/') (front ++ pathText segments)
      = front ++ pathText (dropEndWhile (· == "") segments) := by
  induction segments using List.reverseRecOn with
  | nil =>
    rw [dropEndWhile_nil, pathText, List.flatMap_nil, List.append_nil]
    exact dropEndWhile_eq_self_iff.2 fun c hc => beq_false_of_ne fun heq => hfront (heq ▸ hc)
  | append_singleton segments s ih =>
    obtain ⟨hsegments, hs⟩ := List.forall_mem_append.1 h
    have hs : '/' ∉ s.toList := hs s (List.mem_singleton_self s)
    rw [dropEndWhile_concat, pathText_concat]
    by_cases hempty : s = ""
    · subst hempty
      rw [if_pos (beq_self_eq_true ""), ← ih hsegments, ← List.append_assoc]
      exact dropEndWhile_concat _ _ '/'
    · rw [if_neg (by simpa using hempty), pathText_concat]
      refine dropEndWhile_eq_self_iff.2 fun c hc => beq_false_of_ne ?_
      rintro rfl
      have hne : s.toList ≠ [] := by rwa [ne_eq, String.toList_eq_nil_iff]
      rw [List.append_cons, ← List.append_assoc, List.getLast?_append_of_ne_nil _ hne] at hc
      exact hs (List.mem_of_getLast? hc)

end Url

end UaaAdmin
