import UaaAdmin.Proofs.WebAddresses

/-!
# Slashes at the end of an address

The address of a login server is kept without the slashes at its end. It stays an address with the
same parts then, and of its path only empty segments at the end are lost
(`parse_trimEndSlashes`). A blank in front of the slashes is another matter: once it is at the end
of the text it is dropped, too, while in front of a slash it is part of the path.
-/

namespace UaaAdmin

namespace Url

open Text

/-- The text does not end in a blank or a control. -/
def EndsVisibly (cs : List Char) : Prop :=
  ∀ c, cs.getLast? = some c → 0x20 < c.toNat

/-! ## The cleaned text -/

theorem EndsVisibly.of_suffix {cs ds : List Char} (h : EndsVisibly ds) (hcs : cs <:+ ds) :
    EndsVisibly cs := by
  intro c hc
  obtain ⟨front, rfl⟩ := hcs
  obtain ⟨text, rfl⟩ := List.getLast?_eq_some_iff.1 hc
  exact h c (by rw [← List.append_assoc, List.getLast?_concat])

/-- What is cleaned of a text with slashes behind it: what is cleaned of the text, the blanks at its
end, and the slashes. -/
theorem clean_append_slashes {cs slashes : List Char} (hne : slashes ≠ [])
    (hslashes : ∀ c ∈ slashes, c = '/') :
    ∃ blanks, clean (cs ++ slashes) = clean cs ++ (blanks ++ slashes) ∧
      (∀ c ∈ blanks, c.toNat ≤ 0x20) ∧ (EndsVisibly cs → blanks = []) := by
  have hvisible {c : Char} (hc : c ∈ slashes) : decide (c.toNat ≤ 0x20) = false := by
    rw [hslashes c hc]
    decide
  have hkept : slashes.filter (fun c => !(c == '\t' || c == '\n' || c == '\x0d')) = slashes :=
    List.filter_eq_self.2 fun c hc => by
      rw [hslashes c hc]
      decide
  -- Slashes are no blanks, so that nothing is dropped at the end.
  have hboth : dropBothWhile (fun c => decide (c.toNat ≤ 0x20)) (cs ++ slashes)
      = cs.dropWhile (fun c => decide (c.toNat ≤ 0x20)) ++ slashes := by
    rw [dropBothWhile, dropWhile_append_of_head? cs fun c hc => hvisible (List.mem_of_head? hc),
      dropEndWhile_eq_self_iff]
    intro c hc
    rw [List.getLast?_append_of_ne_nil _ hne] at hc
    exact hvisible (List.mem_of_getLast? hc)
  rw [clean, clean, hboth, dropBothWhile]
  have hsuffix : cs.dropWhile (fun c => decide (c.toNat ≤ 0x20)) <:+ cs := List.dropWhile_suffix _
  generalize cs.dropWhile (fun c => decide (c.toNat ≤ 0x20)) = front at hsuffix
  obtain ⟨dropped, hparts, hdropped⟩ :
      ∃ dropped, dropEndWhile (fun c => decide (c.toNat ≤ 0x20)) front ++ dropped = front ∧
        ∀ c ∈ dropped, c.toNat ≤ 0x20 :=
    ⟨_, dropEndWhile_append_dropped _ front, fun c hc => by
      simpa using List.mem_takeWhile_imp (List.mem_reverse.1 hc)⟩
  refine ⟨dropped.filter fun c => !(c == '\t' || c == '\n' || c == '\x0d'), ?_,
    fun c hc => hdropped c (List.mem_filter.1 hc).1, fun hlast => ?_⟩
  · rw [← hkept, ← List.filter_append, ← List.filter_append, ← List.append_assoc, hparts, hkept]
  · have hself : dropEndWhile (fun c : Char => decide (c.toNat ≤ 0x20)) front = front :=
      dropEndWhile_eq_self_iff.2 fun c hc =>
        decide_eq_false (Nat.not_le.2 (hlast.of_suffix hsuffix c hc))
    rw [hself] at hparts
    have hnil : dropped = [] := List.append_cancel_left (hparts.trans (List.append_nil front).symm)
    rw [hnil, List.filter_nil]

/-! ## Cutting what was cleaned -/

theorem cutScheme?_of_append {cs ds rest : List Char} {scheme : String} (hds : ':' ∉ ds)
    (h : cutScheme? (cs ++ ds) = some (scheme, rest)) :
    ∃ body, rest = body ++ ds ∧ cutScheme? cs = some (scheme, body) := by
  by_cases hcs : ':' ∈ cs
  · obtain ⟨front, body, rfl, hfront⟩ := List.eq_append_cons_of_mem hcs
    unfold cutScheme? at h ⊢
    rw [List.append_assoc, List.cons_append, cutOff_append hfront] at h
    rw [cutOff_append hfront]
    dsimp only at h ⊢
    split at h
    · obtain ⟨rfl, rfl⟩ := Prod.mk.inj (Option.some.inj h)
      rename_i hscheme
      exact ⟨body, rfl, by rw [if_pos hscheme]⟩
    · cases h
  · have hnone : ':' ∉ cs ++ ds := by
      rw [List.mem_append, not_or]
      exact ⟨hcs, hds⟩
    unfold cutScheme? at h
    rw [cutOff_eq_self hnone] at h
    cases h

/-- What stands behind the slashes in front of a text, with slashes at its end. -/
theorem dropWhile_body {cs blanks slashes : List Char}
    (hblanks : ∀ c ∈ blanks, isSlash true c = false)
    (hslashes : ∀ c ∈ slashes, isSlash true c = true) :
    (cs ++ (blanks ++ slashes)).dropWhile (isSlash true)
      = if cs.dropWhile (isSlash true) ++ blanks = [] then []
        else cs.dropWhile (isSlash true) ++ (blanks ++ slashes) := by
  have htext : (cs ++ blanks).dropWhile (isSlash true) = cs.dropWhile (isSlash true) ++ blanks :=
    dropWhile_append_of_head? cs fun c hc => hblanks c (List.mem_of_head? hc)
  rw [← List.append_assoc, List.dropWhile_append, htext, List.append_assoc]
  by_cases hnil : cs.dropWhile (isSlash true) ++ blanks = []
  · rw [if_pos (List.isEmpty_iff.2 hnil), if_pos hnil, List.dropWhile_eq_nil_iff.2 hslashes]
  · rw [if_neg fun h => hnil (List.isEmpty_iff.1 h), if_neg hnil]

/-- Slashes behind an authority end it, with the blanks in front of them. -/
theorem bodyParts_whole {cs blanks slashes : List Char} (hwhole : (bodyParts cs).2 = [])
    (hblanks : ∀ c ∈ blanks, isSlash true c = false) (hslashes : ∀ c ∈ slashes, c = '/') :
    (∀ c ∈ (bodyParts cs).1 ++ blanks, isSlash true c = false) ∧
      ∃ tail, (∀ c ∈ tail, c = '/') ∧
        bodyParts (cs ++ (blanks ++ slashes)) = ((bodyParts cs).1 ++ blanks, tail) := by
  have hmarks : ∀ c ∈ slashes, isSlash true c = true := fun c hc => by
    rw [hslashes c hc]
    decide
  have hbody : ∀ c ∈ cs.dropWhile (isSlash true), isSlash true c = false := fun c hc => by
    simpa using List.dropWhile_eq_nil_iff.1 hwhole c hc
  have hfirst : (bodyParts cs).1 = cs.dropWhile (isSlash true) := by
    rw [bodyParts, cutAt_eq_self hbody]
  have hall := List.forall_mem_append.2 ⟨hbody, hblanks⟩
  rw [hfirst, bodyParts, dropWhile_body hblanks hmarks]
  refine ⟨hall, ?_⟩
  by_cases hnil : cs.dropWhile (isSlash true) ++ blanks = []
  · exact ⟨[], List.forall_mem_nil _, by rw [if_pos hnil, hnil]; rfl⟩
  · refine ⟨slashes, hslashes, ?_⟩
    rw [if_neg hnil, ← List.append_assoc]
    exact cutAt_append hall fun c hc => hmarks c (List.mem_of_head? hc)

/-- Slashes behind a path are more of it. -/
theorem bodyParts_parted {cs blanks slashes : List Char} (hparted : (bodyParts cs).2 ≠ [])
    (hblanks : ∀ c ∈ blanks, isSlash true c = false) (hslashes : ∀ c ∈ slashes, c = '/') :
    bodyParts (cs ++ (blanks ++ slashes))
      = ((bodyParts cs).1, (bodyParts cs).2 ++ (blanks ++ slashes)) := by
  have hmarks : ∀ c ∈ slashes, isSlash true c = true := fun c hc => by
    rw [hslashes c hc]
    decide
  unfold bodyParts at hparted ⊢
  rw [dropWhile_body hblanks hmarks]
  generalize cs.dropWhile (isSlash true) = body at hparted
  have hbody : body ≠ [] := by
    rintro rfl
    exact hparted rfl
  rw [if_neg (List.append_ne_nil_of_left_ne_nil hbody blanks)]
  obtain ⟨front, path, hcut, hparts, hfront, hpath⟩ :
      ∃ front path, cutAt (isSlash true) body = (front, path) ∧ front ++ path = body ∧
        (∀ c ∈ front, isSlash true c = false) ∧ ∀ c, path.head? = some c → isSlash true c = true :=
    ⟨_, _, rfl, List.takeWhile_append_dropWhile, fun c hc => by
      simpa using List.mem_takeWhile_imp hc, fun c hc => by
      have hhead := List.head?_dropWhile_not (fun c => !isSlash true c) body
      rw [hc] at hhead
      simpa using hhead⟩
  rw [hcut] at hparted ⊢
  rw [← hparts, List.append_assoc]
  refine cutAt_append hfront fun c hc => ?_
  rw [List.head?_append_of_ne_nil _ hparted] at hc
  exact hpath c hc

/-! ## The address without the slashes -/

/-- What is read in front of slashes is read without them, and nothing but empty segments comes from
them. -/
theorem authority?_of_slashes {scheme : String} {cs blanks slashes : List Char} {a : Authority}
    (hspecial : isSpecial scheme = true) (hblanks : ∀ c ∈ blanks, c.toNat ≤ 0x20)
    (hslashes : ∀ c ∈ slashes, c = '/')
    (h : authority? scheme (bodyParts (cs ++ (blanks ++ slashes))).1
      (!(bodyParts (cs ++ (blanks ++ slashes))).2.isEmpty) = .ok a) :
    authority? scheme (bodyParts cs).1 (!(bodyParts cs).2.isEmpty) = .ok a ∧
      (blanks = [] → dropEndWhile (· == "") (segmentsOf true (a.rest ++ (bodyParts cs).2))
        = dropEndWhile (· == "")
            (segmentsOf true (a.rest ++ (bodyParts (cs ++ (blanks ++ slashes))).2))) := by
  have hnone : ∀ c ∈ blanks, isSlash true c = false := fun c hc => by
    have hc := hblanks c hc
    refine isSlash_eq_false ?_ ?_ <;> rintro rfl <;> exact absurd hc (by decide)
  by_cases hwhole : (bodyParts cs).2 = []
  · obtain ⟨hall, tail, htail, hparts⟩ := bodyParts_whole hwhole hnone hslashes
    rw [hparts] at h ⊢
    rw [hwhole]
    -- An authority ends in no blank, so that there are none.
    obtain rfl : blanks = [] := by
      rcases List.eq_nil_or_concat blanks with hnil | ⟨bs, c, rfl⟩
      · exact hnil
      rw [List.concat_eq_append] at h hall hblanks
      rw [← List.append_assoc] at h hall
      have hback : '\\' ∉ (bodyParts cs).1 ++ bs ++ [c] := fun hc => absurd (hall _ hc) (by decide)
      have hc := hblanks c (List.mem_append_right bs (List.mem_singleton_self c))
      exact absurd (visible_of_authority? hspecial hback h) (Nat.not_lt.2 hc)
    rw [List.append_nil] at h
    refine ⟨authority?_alone h, fun _ => ?_⟩
    rw [List.append_nil, dropEndWhile_segmentsOf_append _ htail]
  · rw [bodyParts_parted hwhole hnone hslashes] at h ⊢
    dsimp only at h ⊢
    rw [List.isEmpty_eq_false_iff.2 (List.append_ne_nil_of_left_ne_nil hwhole _)] at h
    rw [List.isEmpty_eq_false_iff.2 hwhole]
    refine ⟨h, ?_⟩
    rintro rfl
    rw [List.nil_append, ← List.append_assoc, dropEndWhile_segmentsOf_append _ hslashes]

/-- Without the slashes at its end, an address is read with the same parts. Of its path empty
segments at the end are lost, and no more unless a blank stood in front of the slashes. -/
theorem parse_trimEndSlashes {s : String} {u : Url} {segments : List String} (h : parse s = .ok u)
    (hweb : u.IsOfWeb) (hpath : u.path = .segments segments) (hquery : u.query = none)
    (hfragment : u.fragment = none) :
    ∃ kept, parse (trimEndSlashes s) = .ok { u with path := .segments kept } ∧
      (EndsVisibly (trimEndSlashes s).toList →
        dropEndWhile (· == "") kept = dropEndWhile (· == "") segments) := by
  obtain ⟨slashes, htext, hslashes⟩ :
      ∃ slashes, (trimEndSlashes s).toList ++ slashes = s.toList ∧ ∀ c ∈ slashes, c = '/' :=
    ⟨_, by rw [trimEndSlashes, String.toList_ofList, dropEndWhile_append_dropped], fun c hc => by
      simpa using List.mem_takeWhile_imp (List.mem_reverse.1 hc)⟩
  by_cases hnil : slashes = []
  · rw [hnil, List.append_nil, String.toList_inj] at htext
    exact ⟨segments, by rw [htext, h, ← hpath], fun _ => rfl⟩
  obtain ⟨blanks, hclean, hblanks, hvisible⟩ := clean_append_slashes hnil hslashes
  rw [htext] at hclean
  have hspecial := isSpecial_of_web hweb
  have hfile := ne_file_of_web hweb
  obtain ⟨rest, hcut, hmark, hquestion⟩ := exists_body_of_parse h hquery hfragment
  -- The scheme is cut off in front of what is dropped.
  have hcolon : ':' ∉ blanks ++ slashes := by
    rw [List.mem_append, not_or]
    exact ⟨fun hc => absurd (hblanks _ hc) (by decide),
      fun hc => absurd (hslashes _ hc) (by decide)⟩
  obtain ⟨body, rfl, hkept⟩ := cutScheme?_of_append hcolon (hclean ▸ hcut)
  rw [parse_web hcut hfile hspecial hmark hquestion] at h
  rw [parse_web hkept hfile hspecial (fun hc => hmark (List.mem_append_left _ hc))
    fun hc => hquestion (List.mem_append_left _ hc)]
  generalize u.scheme = scheme at h hspecial
  obtain ⟨a, ha, rfl⟩ := map_eq_ok h
  obtain ⟨hread, hsegments⟩ := authority?_of_slashes hspecial hblanks hslashes ha
  obtain rfl := Path.segments.inj hpath
  exact ⟨_, by rw [hread]; rfl, fun hends => hsegments (hvisible hends)⟩

end Url

end UaaAdmin
