import UaaAdmin.Proofs.NameFolding

/-!
# The plain form of a name

The plain form of a domain name has settled characters only, whatever was typed
(`settled_of_plain?`): labels are folded, and what is written behind the mark is made of digits. So
a settled name is its own plain form, if it has one (`plain?_settled`), and of a name that ends in a
full stop and a settled name the plain form ends in both (`plain?_append_settled`): what is put in
front of a host with a full stop stays in front of it.
-/

namespace UaaAdmin.Url.Domain

/-! ## What is written behind the mark -/

/-- The letters and digits that a label is coded in are settled. -/
theorem digit_settled : ∀ d : Fin 36, IsSettled (Punycode.digit d) := by
  decide +kernel

/-- A threshold is one of the 26 letters. -/
theorem threshold_bounds (k bias : Nat) :
    1 ≤ Punycode.threshold k bias ∧ Punycode.threshold k bias ≤ 26 := by
  unfold Punycode.threshold
  split
  · omega
  split <;> omega

/-- Every step makes the number smaller, so that the fuel lasts to its last digit. -/
theorem settled_of_mem_digitsFrom {bias fuel q k : Nat} {c : Char} (hq : q ≤ fuel)
    (hc : c ∈ Punycode.digitsFrom bias fuel q k) : IsSettled c := by
  induction fuel generalizing q k with
  | zero =>
    rw [List.mem_singleton.1 hc]
    exact digit_settled ⟨q, by omega⟩
  | succ fuel ih =>
    obtain ⟨hlow, hhigh⟩ := threshold_bounds k bias
    unfold Punycode.digitsFrom at hc
    dsimp only at hc
    generalize Punycode.threshold k bias = t at *
    split at hc
    · rw [List.mem_singleton.1 hc]
      exact digit_settled ⟨q, by omega⟩
    · have hdiv : (q - t) / (36 - t) ≤ q - t := Nat.div_le_self _ _
      have hmod : (q - t) % (36 - t) < 36 - t := Nat.mod_lt _ (by omega)
      rcases List.mem_cons.1 hc with rfl | hc
      · exact digit_settled ⟨t + (q - t) % (36 - t), by omega⟩
      · exact ih (by omega) hc

/-- Passing a character adds nothing to a coded label but settled characters. -/
theorem settled_passChar {basic n c : Nat} {st : Punycode.State} (h : ∀ d ∈ st.out, IsSettled d) :
    ∀ d ∈ (Punycode.passChar basic n st c).out, IsSettled d := by
  unfold Punycode.passChar
  split
  · exact h
  split
  · intro d hd
    rcases List.mem_append.1 hd with hd | hd
    · exact settled_of_mem_digitsFrom (Nat.le_succ _) (List.mem_reverse.1 hd)
    · exact h d hd
  · exact h

/-- Passing some characters one after the other adds only settled ones. -/
theorem settled_passCode {basic n : Nat} {codes : List Nat} {acc : Punycode.State × Nat}
    (h : ∀ d ∈ acc.1.out, IsSettled d) :
    ∀ d ∈ (Punycode.passCode basic codes acc n).1.out, IsSettled d := by
  obtain ⟨st, last⟩ := acc
  have hrun (codes : List Nat) (st : Punycode.State) (hst : ∀ d ∈ st.out, IsSettled d) :
      ∀ d ∈ (codes.foldl (Punycode.passChar basic n) st).out, IsSettled d := by
    induction codes generalizing st with
    | nil => exact hst
    | cons c codes ih => exact ih _ (settled_passChar hst)
  exact hrun codes _ h

/-- The plain characters of the label are kept, and all else is written in digits. -/
theorem settled_of_mem_encode {label : List Char} {c : Char}
    (h : ∀ d ∈ label, d.toLower = d ∧ isForbidden d = false) (hc : c ∈ Punycode.encode label) :
    IsSettled c := by
  have hrun (codes others : List Nat) (basic : Nat) (acc : Punycode.State × Nat)
      (hacc : ∀ d ∈ acc.1.out, IsSettled d) :
      ∀ d ∈ (others.foldl (Punycode.passCode basic codes) acc).1.out, IsSettled d := by
    induction others generalizing acc with
    | nil => exact hacc
    | cons n others ih => exact ih _ (settled_passCode hacc)
  unfold Punycode.encode at hc
  dsimp only at hc
  rcases List.mem_append.1 hc with hc | hc
  · rcases List.mem_append.1 hc with hc | hc
    · obtain ⟨hmem, hplain⟩ := List.mem_filter.1 hc
      obtain ⟨hsmall, hallowed⟩ := h c hmem
      exact ⟨of_decide_eq_true hplain, hsmall, hallowed⟩
    · split at hc
      · cases hc
      · rw [List.mem_singleton.1 hc]
        decide
  · exact hrun _ _ _ _ (fun d hd => by cases hd) c (List.mem_reverse.1 hc)

/-! ## Labels -/

/-- A plain label is kept, whether it is behind the mark or not. -/
theorem label?_plain {cs : List Char} {l : Label} (hcs : ∀ c ∈ cs, c.toNat < 0x80)
    (h : label? cs = some l) : l.plain = cs := by
  have hall : cs.all isPlain = true := by simpa [isPlain] using hcs
  unfold label? at h
  dsimp only at h
  rw [if_pos hall] at h
  split at h
  · unfold decodeLabel? at h
    dsimp only at h
    split at h
    · cases h
    · obtain ⟨chars, -, h⟩ := Option.bind_eq_some_iff.1 h
      split at h
      · cases h
        rfl
      · cases h
  · cases h
    rfl

/-- The mark of a coded label is settled. -/
theorem codedMark_settled : ∀ c ∈ codedMark, IsSettled c :=
  List.all_iff_forall_prop.1 (by decide +kernel)

/-- The plain form of a label is settled, whether it is coded or not. -/
theorem settled_of_label? {cs : List Char} {l : Label}
    (hcs : ∀ c ∈ cs, c.toLower = c ∧ isForbidden c = false) (h : label? cs = some l) :
    ∀ c ∈ l.plain, IsSettled c := by
  by_cases hplain : ∀ c ∈ cs, c.toNat < 0x80
  · rw [label?_plain hplain h]
    exact fun c hc => ⟨hplain c hc, (hcs c hc).1, (hcs c hc).2⟩
  · have hall : ¬cs.all isPlain = true := by simpa [isPlain] using hplain
    unfold label? at h
    dsimp only at h
    rw [if_neg hall] at h
    split at h
    · cases h
    · cases h
      intro c hc
      rcases List.mem_append.1 hc with hc | hc
      · exact codedMark_settled c hc
      · exact settled_of_mem_encode hcs hc

/-- Plain labels are their own plain forms. -/
theorem map_plain_of_labels {parts : List (List Char)} {labels : List Label}
    (hparts : ∀ part ∈ parts, ∀ c ∈ part, c.toNat < 0x80)
    (h : parts.mapM label? = some labels) : labels.map Label.plain = parts := by
  induction parts generalizing labels with
  | nil =>
    cases h
    rfl
  | cons part parts ih =>
    obtain ⟨hpart, hparts⟩ := List.forall_mem_cons.1 hparts
    simp only [List.mapM_cons, Option.pure_def, Option.bind_eq_bind] at h
    obtain ⟨l, hl, h⟩ := Option.bind_eq_some_iff.1 h
    obtain ⟨ls, hls, h⟩ := Option.bind_eq_some_iff.1 h
    cases h
    rw [List.map_cons, label?_plain hpart hl, ih hparts hls]

/-- The plain forms of labels are settled. -/
theorem settled_of_labels {parts : List (List Char)} {labels : List Label}
    (hparts : ∀ part ∈ parts, ∀ c ∈ part, c.toLower = c ∧ isForbidden c = false)
    (h : parts.mapM label? = some labels) :
    ∀ text ∈ labels.map Label.plain, ∀ c ∈ text, IsSettled c := by
  induction parts generalizing labels with
  | nil =>
    cases h
    exact List.forall_mem_nil _
  | cons part parts ih =>
    obtain ⟨hpart, hparts⟩ := List.forall_mem_cons.1 hparts
    simp only [List.mapM_cons, Option.pure_def, Option.bind_eq_bind] at h
    obtain ⟨l, hl, h⟩ := Option.bind_eq_some_iff.1 h
    obtain ⟨ls, hls, h⟩ := Option.bind_eq_some_iff.1 h
    cases h
    exact List.forall_mem_cons.2 ⟨settled_of_label? hpart hl, ih hparts hls⟩

/-! ## Names -/

/-- The plain form of a name is that of its folded labels, with full stops between them. -/
theorem plain?_eq_some {cs out : List Char} (h : plain? cs = some out) :
    ∃ folded labels, foldDomain? cs = some folded ∧
      (folded.splitOn '.').mapM label? = some labels ∧
      out = ['.'].intercalate (labels.map Label.plain) := by
  unfold plain? at h
  simp only [Option.bind_eq_bind] at h
  obtain ⟨folded, hfolded, h⟩ := Option.bind_eq_some_iff.1 h
  obtain ⟨labels, hlabels, h⟩ := Option.bind_eq_some_iff.1 h
  split at h
  · cases h
    exact ⟨folded, labels, hfolded, hlabels, rfl⟩
  · cases h

theorem mem_intercalate {mark c : Char} {parts : List (List Char)}
    (h : c ∈ [mark].intercalate parts) : c = mark ∨ ∃ part ∈ parts, c ∈ part := by
  induction parts with
  | nil => cases h
  | cons part parts ih =>
    by_cases hne : parts = []
    · subst hne
      rw [List.intercalate_singleton] at h
      exact .inr ⟨part, List.mem_singleton_self part, h⟩
    · rw [List.intercalate_cons_of_ne_nil hne, List.mem_append, List.mem_append,
        List.mem_singleton] at h
      rcases h with (h | h) | h
      · exact .inr ⟨part, List.mem_cons_self, h⟩
      · exact .inl h
      · exact (ih h).imp_right fun ⟨p, hp, hc⟩ => ⟨p, List.mem_cons_of_mem _ hp, hc⟩

theorem intercalate_append {mark : Char} {parts rest : List (List Char)} (hparts : parts ≠ [])
    (hrest : rest ≠ []) :
    [mark].intercalate (parts ++ rest)
      = [mark].intercalate parts ++ mark :: [mark].intercalate rest := by
  induction parts with
  | nil => exact absurd rfl hparts
  | cons part parts ih =>
    by_cases hne : parts = []
    · subst hne
      rw [List.singleton_append, List.intercalate_cons_of_ne_nil hrest,
        List.intercalate_singleton, List.append_assoc]
      rfl
    · rw [List.cons_append, List.intercalate_cons_of_ne_nil (by simp [hne]), ih hne,
        List.intercalate_cons_of_ne_nil hne]
      simp only [List.append_assoc]

/-- The plain form of a name has only characters that may stand there. -/
theorem settled_of_plain? {cs out : List Char} (h : plain? cs = some out) :
    ∀ c ∈ out, IsSettled c := by
  obtain ⟨folded, labels, hfolded, hlabels, rfl⟩ := plain?_eq_some h
  have hparts : ∀ part ∈ folded.splitOn '.', ∀ c ∈ part, c.toLower = c ∧ isForbidden c = false :=
    fun part hpart c hc =>
      have hmem := mem_of_mem_splitOn hpart hc
      ⟨toLower_of_foldDomain? hfolded c hmem, isForbidden_of_foldDomain? hfolded c hmem⟩
  intro c hc
  rcases mem_intercalate hc with rfl | ⟨text, htext, hc⟩
  · decide
  · exact settled_of_labels hparts hlabels text htext c hc

/-- A settled name is its own plain form, if it has one. -/
theorem plain?_settled {cs out : List Char} (hcs : ∀ c ∈ cs, IsSettled c)
    (h : plain? cs = some out) : out = cs := by
  obtain ⟨folded, labels, hfolded, hlabels, rfl⟩ := plain?_eq_some h
  obtain rfl : cs = folded := Option.some.inj ((foldDomain?_settled hcs).symm.trans hfolded)
  rw [map_plain_of_labels (fun part hpart c hc => (hcs c (mem_of_mem_splitOn hpart hc)).plain)
    hlabels, List.intercalate_splitOn]

/-- A name that ends in a character that is not allowed has no plain form. -/
theorem allowed_of_plain?_append {cs ds out : List Char} (hds : ∀ c ∈ ds, c.toNat < 0x80)
    (h : plain? (cs ++ ds) = some out) : ∀ c ∈ ds, isForbidden c.toLower = false := by
  obtain ⟨folded, labels, hfolded, -, -⟩ := plain?_eq_some h
  obtain ⟨front, rfl⟩ := foldDomain?_append_plain hds hfolded
  intro c hc
  exact isForbidden_of_foldDomain? hfolded _
    (List.mem_append_right front (List.mem_map_of_mem hc))

/-- What is settled behind a full stop ends the plain form, too. -/
theorem plain?_append_settled {cs ds out : List Char} (hds : ∀ c ∈ ds, IsSettled c)
    (h : plain? (cs ++ '.' :: ds) = some out) : ∃ front, out = front ++ '.' :: ds := by
  obtain ⟨folded, labels, hfolded, hlabels, rfl⟩ := plain?_eq_some h
  obtain ⟨front, rfl⟩ :=
    foldDomain?_append_settled (List.forall_mem_cons.2 ⟨by decide, hds⟩) hfolded
  obtain ⟨part, parts, hparts⟩ := List.exists_cons_of_ne_nil (List.splitOn_ne_nil '.' front)
  rw [List.splitOn_append_cons_self, hparts, List.mapM_append, List.mapM_cons] at hlabels
  simp only [Option.pure_def, Option.bind_eq_bind, Option.bind_assoc, Option.bind_some] at hlabels
  obtain ⟨l, -, hlabels⟩ := Option.bind_eq_some_iff.1 hlabels
  obtain ⟨ls, -, hlabels⟩ := Option.bind_eq_some_iff.1 hlabels
  obtain ⟨ms, hms, hlabels⟩ := Option.bind_eq_some_iff.1 hlabels
  cases hlabels
  have hkept := map_plain_of_labels
    (fun part hpart c hc => (hds c (mem_of_mem_splitOn hpart hc)).plain) hms
  refine ⟨['.'].intercalate ((l :: ls).map Label.plain), ?_⟩
  rw [List.map_append, hkept, intercalate_append (by simp) (List.splitOn_ne_nil '.' ds),
    List.intercalate_splitOn]

end UaaAdmin.Url.Domain
