import Mathlib.Data.Bool.AllAny
import Mathlib.Data.List.Basic
import UaaAdmin.Url.Domain

/-!
# Folding keeps what is settled

A character is settled if it may stand in the plain form of a name: it is plain, no capital, and
allowed there. Folding gives small letters only (`toLower_of_foldDomain?`), since neither its tables
nor those of composition hold a capital; and plain characters take no part in composition, so that
settled characters at the end of a name stay there (`foldDomain?_append_settled`).
-/

namespace UaaAdmin.Url.Domain

open UaaAdmin.Text

/-- The character may stand in the plain form of a name. -/
structure IsSettled (c : Char) : Prop where
  plain : c.toNat < 0x80
  small : c.toLower = c
  allowed : isForbidden c = false

instance (c : Char) : Decidable (IsSettled c) :=
  decidable_of_iff (c.toNat < 0x80 ∧ c.toLower = c ∧ isForbidden c = false)
    ⟨fun h => ⟨h.1, h.2.1, h.2.2⟩, fun h => ⟨h.1, h.2, h.3⟩⟩

/-! ## Small letters -/

/-- What is no capital is its own small letter. -/
theorem toLower_of_not_capital {c : Char} (h : c.toNat < 0x41 ∨ 0x5a < c.toNat) :
    c.toLower = c := by
  have hn : ¬('A'.val ≤ c.val ∧ c.val ≤ 'Z'.val) := by
    rintro ⟨hlow, hhigh⟩
    have hlow : 0x41 ≤ c.toNat := hlow
    have hhigh : c.toNat ≤ 0x5a := hhigh
    omega
  exact dif_neg hn

/-- What is not plain is its own small letter. -/
theorem toLower_of_not_plain {c : Char} (h : 0x80 ≤ c.toNat) : c.toLower = c :=
  toLower_of_not_capital (.inr (by omega))

/-- Making a letter small twice is making it small once. -/
theorem toLower_toLower (c : Char) : c.toLower.toLower = c.toLower := by
  by_cases h : 'A'.val ≤ c.val ∧ c.val ≤ 'Z'.val
  · have hlow : 0x41 ≤ c.val.toNat := h.1
    have hhigh : c.val.toNat ≤ 0x5a := h.2
    have hval : c.toLower.val = c.val + ('a'.val - 'A'.val) := congrArg Char.val (dif_pos h)
    have hdiff : ('a'.val - 'A'.val).toNat = 32 := rfl
    refine toLower_of_not_capital (.inr ?_)
    show 0x5a < c.toLower.val.toNat
    rw [hval, UInt32.toNat_add, hdiff]
    omega
  · have hc : c.toLower = c := dif_neg h
    rw [hc, hc]

/-- The character of a number; a number that has none gives the character 0. -/
theorem toNat_ofNat_cases (n : Nat) : (Char.ofNat n).toNat = n ∨ (Char.ofNat n).toNat = 0 := by
  by_cases h : n.isValidChar
  · left
    rw [Char.ofNat, dif_pos h]
    rfl
  · right
    rw [Char.ofNat, dif_neg h]
    rfl

/-- The character of a number outside of the capitals is its own small letter. -/
theorem toLower_ofNat {n : Nat} (h : n < 0x41 ∨ 0x5a < n) :
    (Char.ofNat n).toLower = Char.ofNat n := by
  refine toLower_of_not_capital ?_
  rcases toNat_ofNat_cases n with hn | hn <;> rw [hn] <;> omega

/-! ## The tables

None of them gives a capital, and those of composition have no plain character but the letters that
marks are written onto. -/

/-- What holds of characters holds of those of the text that they are put into. -/
theorem forall_mem_toList_ofList {p : Char → Prop} {l : List Char} (h : ∀ c ∈ l, p c) :
    ∀ c ∈ (String.ofList l).toList, p c := by
  rwa [String.toList_ofList]

/-- What holds of the characters of two texts holds of those of both together. -/
theorem forall_mem_toList_append {p : Char → Prop} {s t : String} (hs : ∀ c ∈ s.toList, p c)
    (ht : ∀ c ∈ t.toList, p c) : ∀ c ∈ (s ++ t).toList, p c := by
  rw [String.toList_append]
  exact List.forall_mem_append.2 ⟨hs, ht⟩

-- The rows are taken one by one, so that each text is evaluated from its characters alone.
set_option maxRecDepth 4000 in
/-- Folded forms and the letters that marks are written onto are no capitals, and what becomes of a
letter and its mark is not plain. -/
theorem texts_of_tables :
    (∀ r ∈ foldedRuns, ∀ c ∈ r.forms.toList, c.toLower = c) ∧
      (∀ r ∈ compositeRows, ∀ c ∈ r.firsts.toList, c.toLower = c) ∧
      ∀ r ∈ compositeRows, ∀ c ∈ r.composites.toList, 0x80 ≤ c.toNat := by
  unfold foldedRuns compositeRows
  refine ⟨?_, ?_, ?_⟩ <;>
    repeat'
      first
        | exact List.forall_mem_nil _
        | with_reducible refine List.forall_mem_cons.2 ⟨forall_mem_toList_ofList ?_, ?_⟩
        | with_reducible refine List.forall_mem_cons.2 ⟨forall_mem_toList_append
            (forall_mem_toList_ofList ?_) (forall_mem_toList_ofList ?_), ?_⟩
        | exact List.all_iff_forall_prop.1 (by decide +kernel)

/-- No mark that is composed with a letter is plain. -/
theorem not_plain_second : ∀ r ∈ compositeRows, 0x80 ≤ r.second := by
  decide +kernel

/-- No code point behind the plain ones is taken to a capital. -/
def AvoidsCapitals (r : CaseRun) : Prop :=
  r.last < 0x80 ∨ (r.last : Int) + r.shift < 0x41 ∨ (0x5a : Int) < r.first + r.shift

instance (r : CaseRun) : Decidable (AvoidsCapitals r) :=
  inferInstanceAs (Decidable (_ ∨ _ ∨ _))

/-- No run in the table of small letters leads to a capital. -/
theorem avoidsCapitals_caseRuns : ∀ r ∈ caseRuns, AvoidsCapitals r := by
  decide +kernel

/-- No run in the table of shifted forms leads to a capital. -/
theorem avoidsCapitals_shiftedRuns : ∀ r ∈ shiftedRuns, AvoidsCapitals r := by
  decide +kernel

/-- A shift that avoids the capitals gives a small letter. -/
theorem toLower_shifted {r : CaseRun} {n : Nat} (hr : AvoidsCapitals r) (hn : 0x80 ≤ n)
    (hhas : r.has n = true) :
    (Char.ofNat (n + r.shift).toNat).toLower = Char.ofNat (n + r.shift).toNat := by
  simp only [CaseRun.has, Bool.and_eq_true, decide_eq_true_eq] at hhas
  obtain ⟨⟨hfirst, hlast⟩, -⟩ := hhas
  refine toLower_ofNat ?_
  rcases hr with h | h | h <;> omega

/-- No plain character is a mark, and so none has a class. -/
theorem combiningClass_plain {c : Char} (h : c.toNat < 0x80) :
    Repertoire.combiningClass c = 0 := by
  have hadded : ∀ r ∈ Repertoire.addedMarks, 0x80 ≤ r.first := by decide +kernel
  have hmarks : ∀ r ∈ nonspacingMarks ++ spacingMarks, 0x80 ≤ r.first := by decide +kernel
  have hnone : ∀ rows : List MarkRun, (∀ r ∈ rows, 0x80 ≤ r.first) →
      rows.find? (·.has c.toNat) = none := by
    intro rows hrows
    refine List.find?_eq_none.2 fun r hr hhas => ?_
    have hfirst := hrows r hr
    simp only [MarkRun.has, Bool.and_eq_true, decide_eq_true_eq] at hhas
    omega
  rw [Repertoire.combiningClass, hnone _ hadded, Text.combiningClass, hnone _ hmarks]
  rfl

/-! ## Folding gives small letters -/

/-- The small letter of a character that is not plain is no capital. -/
theorem toLower_lowerChar {c : Char} (h : 0x80 ≤ c.toNat) :
    (lowerChar c).toLower = lowerChar c := by
  unfold lowerChar
  split
  · rename_i r hr
    exact toLower_shifted (avoidsCapitals_caseRuns r (List.mem_of_find?_eq_some hr)) h
      (List.find?_some (p := fun r : CaseRun => r.has c.toNat) hr)
  · exact toLower_of_not_plain h

/-- The form that a table gives for a character has no capital in it. -/
theorem toLower_of_mem_form {r : FoldedRun} {n : Nat} {f : List Char} {c : Char}
    (hr : r ∈ foldedRuns) (hf : r.form? n = some f) (hc : c ∈ f) : c.toLower = c :=
  texts_of_tables.1 r hr c (mem_of_mem_splitOn (List.mem_of_getElem? hf) hc)

/-- What a character is folded to has no capital in it, whichever table it comes from. -/
theorem toLower_of_mem_foldChar? {c d : Char} {f : List Char} (h : foldChar? c = some f)
    (hd : d ∈ f) : d.toLower = d := by
  by_cases hc : c.toNat < 0x80
  · rw [foldChar?_ascii hc, Option.some.injEq] at h
    subst h
    rw [List.mem_singleton.1 hd]
    exact toLower_toLower c
  have hc : 0x80 ≤ c.toNat := by omega
  -- One case for each table, in the order in which they are looked into.
  unfold foldChar? at h
  dsimp only at h
  split at h
  · omega
  split at h
  · cases h
    rw [List.mem_singleton.1 hd]
    exact toLower_of_not_plain hc
  split at h
  · cases h
    cases hd
  split at h
  · cases h
  split at h
  · rename_i r hr
    exact toLower_of_mem_form (List.mem_of_find?_eq_some hr) h hd
  split at h
  · rename_i r hr
    cases h
    rw [List.mem_singleton.1 hd]
    exact toLower_shifted (avoidsCapitals_shiftedRuns r (List.mem_of_find?_eq_some hr)) hc
      (List.find?_some (p := fun r : CaseRun => r.has c.toNat) hr)
  · cases h
    rw [List.mem_singleton.1 hd]
    exact toLower_lowerChar hc

/-- Characters are folded one after the other. -/
theorem fold?_cons (c : Char) (cs : List Char) :
    fold? (c :: cs) = (foldChar? c).bind fun f => (fold? cs).map (f ++ ·) := by
  simp only [fold?, List.mapM_cons, Option.pure_def, Option.bind_eq_bind]
  cases foldChar? c with
  | none => rfl
  | some f => cases cs.mapM foldChar? <;> rfl

/-- The two parts of a name are folded on their own. -/
theorem fold?_append (cs ds : List Char) :
    fold? (cs ++ ds) = (fold? cs).bind fun f => (fold? ds).map (f ++ ·) := by
  simp only [fold?, List.mapM_append, Option.pure_def, Option.bind_eq_bind]
  cases cs.mapM foldChar? with
  | none => rfl
  | some f => cases ds.mapM foldChar? <;> simp

/-- What a name is folded to has no capital in it. -/
theorem toLower_of_mem_fold? {cs f : List Char} {c : Char} (h : fold? cs = some f) (hc : c ∈ f) :
    c.toLower = c := by
  induction cs generalizing f with
  | nil =>
    cases h
    cases hc
  | cons d cs ih =>
    rw [fold?_cons, Option.bind_eq_some_iff] at h
    obtain ⟨fd, hd, h⟩ := h
    obtain ⟨g, hg, rfl⟩ := Option.map_eq_some_iff.1 h
    rcases List.mem_append.1 hc with hc | hc
    · exact toLower_of_mem_foldChar? hd hc
    · exact ih hg hc

/-! ## Composition gives small letters -/

/-- A syllable is no capital, since all syllables stand far behind. -/
theorem composeSyllable?_small {a b c : Char} (h : composeSyllable? a b = some c) :
    c.toLower = c := by
  unfold composeSyllable? at h
  dsimp only at h
  split at h
  · obtain rfl := Option.some.inj h
    exact toLower_ofNat (.inr (by unfold syllableBase; omega))
  split at h
  · rename_i hm
    simp only [Bool.and_eq_true, decide_eq_true_eq] at hm
    obtain rfl := Option.some.inj h
    exact toLower_ofNat (.inr (by unfold syllableBase at hm; omega))
  · cases h

/-- The parts of a syllable are no capitals. -/
theorem splitSyllable?_small {a b c : Char} (h : splitSyllable? c = some (a, b)) :
    a.toLower = a ∧ b.toLower = b := by
  unfold splitSyllable? at h
  dsimp only at h
  split at h
  · rename_i hn
    simp only [Bool.and_eq_true, decide_eq_true_eq] at hn
    unfold syllableBase at hn
    split at h <;> obtain ⟨rfl, rfl⟩ := Prod.mk.inj (Option.some.inj h)
    · exact ⟨toLower_ofNat (.inr (by unfold leadBase; omega)),
        toLower_ofNat (.inr (by unfold vowelBase; omega))⟩
    · exact ⟨toLower_ofNat (.inr (by unfold syllableBase; omega)),
        toLower_ofNat (.inr (by unfold tailBase; omega))⟩
  · cases h

/-- A pair of a row is made of one of its letters and one of its composites. -/
theorem mem_of_mem_pairs {r : CompositeRow} {p : Char × Char} (h : p ∈ r.pairs) :
    p.1 ∈ r.firsts.toList ∧ p.2 ∈ r.composites.toList :=
  List.of_mem_zip h

/-- What two characters are composed to is no capital. -/
theorem composePair?_small {a b c : Char} (h : composePair? a b = some c) : c.toLower = c := by
  rw [composePair?, Option.orElse_eq_orElse, Option.orElse_eq_or] at h
  rcases Option.or_eq_some_iff.1 h with h | ⟨-, h⟩
  · exact composeSyllable?_small h
  · obtain ⟨r, hr, h⟩ := List.exists_of_findSome?_eq_some h
    split at h
    · obtain ⟨p, hp, rfl⟩ := Option.map_eq_some_iff.1 h
      have hmem := mem_of_mem_pairs (List.mem_of_find?_eq_some hp)
      exact toLower_of_not_plain (texts_of_tables.2.2 r hr _ hmem.2)
    · cases h

/-- The two characters that one is taken apart into are no capitals. -/
theorem splitPair?_small {a b c : Char} (h : splitPair? c = some (a, b)) :
    a.toLower = a ∧ b.toLower = b := by
  rw [splitPair?, Option.orElse_eq_orElse, Option.orElse_eq_or] at h
  rcases Option.or_eq_some_iff.1 h with h | ⟨-, h⟩
  · exact splitSyllable?_small h
  · obtain ⟨r, hr, h⟩ := List.exists_of_findSome?_eq_some h
    obtain ⟨p, hp, heq⟩ := Option.map_eq_some_iff.1 h
    cases heq
    have hmem := mem_of_mem_pairs (List.mem_of_find?_eq_some hp)
    have hsecond := not_plain_second r hr
    exact ⟨texts_of_tables.2.1 r hr _ hmem.1, toLower_ofNat (.inr (by omega))⟩

/-- Taking apart what is no capital, as often as it can be, gives no capital. -/
theorem toLower_of_mem_partsOf {depth : Nat} {c d : Char} (h : c.toLower = c)
    (hd : d ∈ partsOf depth c) : d.toLower = d := by
  induction depth generalizing c with
  | zero =>
    rw [List.mem_singleton.1 hd]
    exact h
  | succ depth ih =>
    unfold partsOf at hd
    split at hd
    · rename_i a b hsplit
      obtain ⟨ha, hb⟩ := splitPair?_small hsplit
      rcases List.mem_append.1 hd with hd | hd
      · exact ih ha hd
      · rw [List.mem_singleton.1 hd]
        exact hb
    · rw [List.mem_singleton.1 hd]
      exact h

/-- A mark that is put in its place is added to the characters, and nothing else is. -/
theorem mem_place {c d : Char} {cs : List Char} : d ∈ place c cs ↔ d = c ∨ d ∈ cs := by
  induction cs with
  | nil => simp [place]
  | cons p ps ih =>
    unfold place
    split
    · rw [List.mem_cons, ih, List.mem_cons]
      exact or_left_comm
    · exact List.mem_cons

/-- Marks are put in their places without losing or adding any. -/
theorem mem_foldl_place {d : Char} {cs done : List Char} :
    d ∈ cs.foldl (fun done c => place c done) done ↔ d ∈ cs ∨ d ∈ done := by
  induction cs generalizing done with
  | nil => simp
  | cons c cs ih =>
    rw [List.foldl_cons, ih, mem_place, List.mem_cons, or_left_comm, or_assoc]

/-- A name without capitals has none after it is taken apart. -/
theorem toLower_of_mem_decompose {cs : List Char} {d : Char} (h : ∀ c ∈ cs, c.toLower = c)
    (hd : d ∈ decompose cs) : d.toLower = d := by
  rw [decompose, List.mem_reverse, mem_foldl_place] at hd
  rcases hd with hd | hd
  · obtain ⟨c, hc, hd⟩ := List.mem_flatMap.1 hd
    exact toLower_of_mem_partsOf (h c hc) hd
  · cases hd

/-- What is read goes behind the rest, or makes a new character with the letter. -/
theorem mem_chars_push {s : Composing} {c d : Char} (hd : d ∈ (s.push c).chars) :
    d = c ∨ d ∈ s.chars ∨ ∃ a, composePair? a c = some d := by
  unfold Composing.push at hd
  split at hd
  · rename_i b hb
    obtain ⟨a, -, hpair⟩ := Option.bind_eq_some_iff.1 hb
    split at hpair
    · simp only [Composing.chars, Option.toList_some, List.mem_append, List.mem_singleton] at hd ⊢
      rcases hd with (hd | rfl) | hd
      · exact .inr (.inl (.inl (.inl hd)))
      · exact .inr (.inr ⟨a, hpair⟩)
      · exact .inr (.inl (.inr hd))
    · cases hpair
  · split at hd
    · simp only [Composing.chars, Option.toList_some, List.nil_append, List.singleton_append,
        List.mem_cons] at hd
      exact hd.imp_right .inl
    · simp only [Composing.chars, List.cons_append, List.mem_cons] at hd
      exact hd.imp_right .inl

/-- The characters that have been composed are no capitals, as the ones still to come are none. -/
theorem toLower_of_mem_foldl_push {cs : List Char} {s : Composing} {d : Char}
    (hcs : ∀ c ∈ cs, c.toLower = c) (hs : ∀ c ∈ s.chars, c.toLower = c)
    (hd : d ∈ (cs.foldl Composing.push s).chars) : d.toLower = d := by
  induction cs generalizing s with
  | nil => exact hs d hd
  | cons c cs ih =>
    refine ih (fun c hc => hcs c (List.mem_cons_of_mem _ hc)) (fun e he => ?_) hd
    rcases mem_chars_push he with rfl | he | ⟨a, he⟩
    · exact hcs _ List.mem_cons_self
    · exact hs e he
    · exact composePair?_small he

/-- A name without capitals has none after it is composed. -/
theorem toLower_of_mem_compose {cs : List Char} {d : Char} (h : ∀ c ∈ cs, c.toLower = c)
    (hd : d ∈ compose cs) : d.toLower = d := by
  unfold compose at hd
  split at hd
  · exact h d hd
  · exact toLower_of_mem_foldl_push (fun c hc => toLower_of_mem_decompose h hc)
      (fun c hc => by cases hc) (List.mem_reverse.1 hd)

/-! ## Composition keeps what is plain at the end -/

/-- A plain character is not composed with the one in front of it. -/
theorem composePair?_plain {a c : Char} (h : c.toNat < 0x80) : composePair? a c = none := by
  have hsyllable : composeSyllable? a c = none := by
    have hvowel : ¬vowelBase ≤ c.toNat := by unfold vowelBase; omega
    have htail : ¬tailBase < c.toNat := by unfold tailBase; omega
    simp [composeSyllable?, hvowel, htail]
  rw [composePair?, Option.orElse_eq_orElse, Option.orElse_eq_or, hsyllable, Option.none_or]
  refine List.findSome?_eq_none_iff.2 fun r hr => if_neg ?_
  have hsecond := not_plain_second r hr
  omega

/-- A plain character is not taken apart. -/
theorem splitPair?_plain {c : Char} (h : c.toNat < 0x80) : splitPair? c = none := by
  have hsyllable : splitSyllable? c = none := by
    have hbase : ¬syllableBase ≤ c.toNat := by unfold syllableBase; omega
    simp [splitSyllable?, hbase]
  rw [splitPair?, Option.orElse_eq_orElse, Option.orElse_eq_or, hsyllable, Option.none_or]
  refine List.findSome?_eq_none_iff.2 fun r hr => ?_
  rw [Option.map_eq_none_iff]
  refine List.find?_eq_none.2 fun p hp heq => ?_
  have hcomposite := texts_of_tables.2.2 r hr _ (mem_of_mem_pairs hp).2
  rw [eq_of_beq heq] at hcomposite
  omega

/-- A plain character is no mark that would move. -/
theorem place_plain {c : Char} (h : c.toNat < 0x80) (cs : List Char) : place c cs = c :: cs := by
  cases cs with
  | nil => rfl
  | cons p ps => simp [place, combiningClass_plain h]

/-- A plain character ends what is being composed, and begins anew. -/
theorem push_plain {c : Char} (h : c.toNat < 0x80) (s : Composing) :
    s.push c = ⟨s.chars, some c, []⟩ := by
  have hpair : (s.letter.bind fun a => if s.reaches c then composePair? a c else none) = none := by
    refine Option.bind_eq_none_iff.2 fun a _ => ?_
    rw [composePair?_plain h, ite_self]
  rw [Composing.push, hpair]
  exact if_pos (combiningClass_plain h)

/-- Plain characters keep their order when marks are put in their places. -/
theorem foldl_place_plain {cs : List Char} (h : ∀ c ∈ cs, c.toNat < 0x80) (done : List Char) :
    cs.foldl (fun done c => place c done) done = cs.reverse ++ done := by
  induction cs generalizing done with
  | nil => rfl
  | cons c cs ih =>
    obtain ⟨hc, hcs⟩ := List.forall_mem_cons.1 h
    rw [List.foldl_cons, place_plain hc, ih hcs, List.reverse_cons, List.append_assoc]
    rfl

/-- Plain characters at the end of a name stay there when it is taken apart. -/
theorem decompose_append_plain (cs : List Char) {ds : List Char} (h : ∀ c ∈ ds, c.toNat < 0x80) :
    decompose (cs ++ ds) = decompose cs ++ ds := by
  have hparts : ds.flatMap (partsOf maxSteps) = ds.flatMap fun c => [c] :=
    List.flatMap_congr fun c hc => by rw [maxSteps, partsOf, splitPair?_plain (h c hc)]
  rw [decompose, List.flatMap_append, hparts, List.flatMap_singleton', List.foldl_append,
    foldl_place_plain h, List.reverse_append, List.reverse_reverse]
  rfl

/-- Plain characters are read into the end of what has been composed. -/
theorem chars_foldl_push_plain {cs : List Char} (h : ∀ c ∈ cs, c.toNat < 0x80) (s : Composing) :
    (cs.foldl Composing.push s).chars = cs.reverse ++ s.chars := by
  induction cs generalizing s with
  | nil => rfl
  | cons c cs ih =>
    obtain ⟨hc, hcs⟩ := List.forall_mem_cons.1 h
    rw [List.foldl_cons, push_plain hc, ih hcs, List.reverse_cons, List.append_assoc]
    rfl

/-- Plain characters take no part in the composition of what stands in front of them. -/
theorem compose_append_plain (cs : List Char) {ds : List Char} (h : ∀ c ∈ ds, c.toNat < 0x80) :
    compose (cs ++ ds) = compose cs ++ ds := by
  have hds : ds.all (fun c => c.toNat < 0x80) = true := by simpa using h
  unfold compose
  rw [List.all_append, hds, Bool.and_true]
  split
  · rfl
  · rw [decompose_append_plain cs h, List.foldl_append, chars_foldl_push_plain h,
      List.reverse_append, List.reverse_reverse]

/-! ## Folding a whole name -/

/-- Settled characters are their own small letters. -/
theorem map_toLower_of_settled {cs : List Char} (h : ∀ c ∈ cs, IsSettled c) :
    cs.map Char.toLower = cs :=
  (List.map_congr_left fun c hc => (h c hc).small).trans (List.map_id' cs)

/-- A folded name has no character in it that is not allowed. -/
theorem isForbidden_of_foldDomain? {cs out : List Char} (h : foldDomain? cs = some out) :
    ∀ c ∈ out, isForbidden c = false := by
  obtain ⟨f, -, h⟩ := Option.bind_eq_some_iff.1 h
  dsimp only at h
  split at h
  · cases h
  · rename_i hany
    cases h
    simpa using hany

/-- A folded name has no capital in it. -/
theorem toLower_of_foldDomain? {cs out : List Char} (h : foldDomain? cs = some out) :
    ∀ c ∈ out, c.toLower = c := by
  obtain ⟨f, hf, h⟩ := Option.bind_eq_some_iff.1 h
  dsimp only at h
  split at h
  · cases h
  · cases h
    exact fun c hc => toLower_of_mem_compose (fun d hd => toLower_of_mem_fold? hf hd) hc

/-- A name of settled characters folds to itself. -/
theorem foldDomain?_settled {cs : List Char} (h : ∀ c ∈ cs, IsSettled c) :
    foldDomain? cs = some cs := by
  have hmap := map_toLower_of_settled h
  have hforbidden : (cs.map Char.toLower).any isForbidden = false := by
    rw [hmap]
    exact List.any_eq_false.2 fun c hc => by simp [(h c hc).allowed]
  rw [foldDomain?_ascii (fun c hc => (h c hc).plain) hforbidden, hmap]

/-- Of what is plain at the end of a name only the capitals change. -/
theorem foldDomain?_append_plain {cs ds out : List Char} (hds : ∀ c ∈ ds, c.toNat < 0x80)
    (h : foldDomain? (cs ++ ds) = some out) : ∃ front, out = front ++ ds.map Char.toLower := by
  obtain ⟨f, hf, h⟩ := Option.bind_eq_some_iff.1 h
  rw [fold?_append, fold?_ascii hds] at hf
  obtain ⟨g, -, hg⟩ := Option.bind_eq_some_iff.1 hf
  cases hg
  have hlower : ∀ c ∈ ds.map Char.toLower, c.toNat < 0x80 :=
    List.forall_mem_map.2 fun c hc => toNat_toLower_lt (hds c hc)
  dsimp only at h
  rw [compose_append_plain g hlower] at h
  split at h
  · cases h
  · cases h
    exact ⟨_, rfl⟩

/-- What is settled at the end of a name stays there. -/
theorem foldDomain?_append_settled {cs ds out : List Char} (hds : ∀ c ∈ ds, IsSettled c)
    (h : foldDomain? (cs ++ ds) = some out) : ∃ front, out = front ++ ds := by
  obtain ⟨front, rfl⟩ := foldDomain?_append_plain (fun c hc => (hds c hc).plain) h
  exact ⟨front, by rw [map_toLower_of_settled hds]⟩

end UaaAdmin.Url.Domain
