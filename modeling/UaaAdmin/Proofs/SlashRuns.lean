import Mathlib.Data.List.Destutter
import UaaAdmin.Admin.Endpoint

/-!
# Runs of slashes in paths

The path of a request is relieved of double slashes in rounds, each of which replaces pairs of them
from the left, so that a long run takes several rounds to shrink to one slash. Every round shortens
the path, and the rounds end with the path in which each longest run is a single slash
(`squeezed_iff`), which is what is left if all slashes behind a slash are dropped
(`collapseSlashes_eq_destutter`).

The payoff is `urlOf_canonical`: behind the address of an endpoint and one slash stands that path
without the slash in front, so that two paths have one address exactly if they differ in nothing but
the lengths of their runs and in what slashes stand in front.
-/

namespace UaaAdmin

/-! ## Double slashes -/

/-- The two characters are not both slashes. -/
def NotBothSlashes (c d : Char) : Prop := c ≠ '/' ∨ d ≠ '/'

instance : DecidableRel NotBothSlashes := fun _ _ => inferInstanceAs (Decidable (_ ∨ _))

variable {c : Char} {cs ds : List Char}

/-- A character that makes no double slash with the next one can be left out. -/
theorem hasDoubleSlash_cons (h : c = '/' → cs.head? ≠ some '/') :
    hasDoubleSlash (c :: cs) = hasDoubleSlash cs :=
  hasDoubleSlash.eq_2 c cs fun _ hc hcs => h hc (by rw [hcs, List.head?_cons])

/-- A double slash is two slashes in a row somewhere in the text. -/
theorem hasDoubleSlash_iff_isInfix : hasDoubleSlash cs = true ↔ ['/', '/'] <:+: cs := by
  fun_induction hasDoubleSlash cs with
  | case1 cs => exact iff_of_true rfl ⟨[], cs, rfl⟩
  | case2 c cs hne ih =>
    rw [ih, List.infix_cons_iff, or_iff_right]
    rintro ⟨rest, h⟩
    obtain ⟨hc, hcs⟩ := List.cons.inj h
    exact hne rest hc.symm hcs.symm
  | case3 => simp

/-- Without double slashes no two neighbours are both slashes. -/
theorem isChain_of_not_hasDoubleSlash (h : ¬hasDoubleSlash cs = true) :
    cs.IsChain NotBothSlashes := by
  fun_induction hasDoubleSlash cs with
  | case1 cs => exact absurd rfl h
  | case2 c cs hne ih =>
    rcases cs with _ | ⟨d, ds⟩
    · exact List.isChain_singleton c
    · refine List.isChain_cons_cons.mpr ⟨?_, ih h⟩
      by_cases hc : c = '/'
      · exact .inr fun hd => hne ds hc (by rw [hd])
      · exact .inl hc
  | case3 => exact List.isChain_nil

/-! ## Rounds -/

/-- A round drops nothing that is kept when all slashes behind a slash are dropped. -/
theorem destutter'_halveSlashes (a : Char) (cs : List Char) :
    (halveSlashes cs).destutter' NotBothSlashes a = cs.destutter' NotBothSlashes a := by
  fun_induction halveSlashes cs generalizing a with
  | case1 cs ih =>
    have hpair : ¬NotBothSlashes '/' '/' := by decide
    by_cases ha : NotBothSlashes a '/'
    · rw [List.destutter'_cons_pos _ ha, List.destutter'_cons_pos _ ha,
        List.destutter'_cons_neg _ hpair, ih]
    · obtain rfl : a = '/' := by simpa [NotBothSlashes] using ha
      rw [List.destutter'_cons_neg _ hpair, List.destutter'_cons_neg _ hpair,
        List.destutter'_cons_neg _ hpair, ih]
  | case2 c cs _ ih =>
    by_cases ha : NotBothSlashes a c
    · rw [List.destutter'_cons_pos _ ha, List.destutter'_cons_pos _ ha, ih]
    · rw [List.destutter'_cons_neg _ ha, List.destutter'_cons_neg _ ha, ih]
  | case3 => rfl

/-- A round does not change what is left if all slashes behind a slash are dropped. -/
theorem destutter_halveSlashes (cs : List Char) :
    (halveSlashes cs).destutter NotBothSlashes = cs.destutter NotBothSlashes := by
  fun_cases halveSlashes cs with
  | case1 cs =>
    rw [List.destutter_cons', List.destutter_cons', destutter'_halveSlashes,
      List.destutter'_cons_neg _ (by decide)]
  | case2 c cs _ => rw [List.destutter_cons', List.destutter_cons', destutter'_halveSlashes]
  | case3 => rfl

/-- The rounds leave what is left when all slashes behind a slash are dropped. -/
theorem collapseSlashes_eq_destutter (cs : List Char) :
    collapseSlashes cs = cs.destutter NotBothSlashes := by
  fun_induction collapseSlashes cs with
  | case1 cs _ ih => rw [ih, destutter_halveSlashes]
  | case2 cs h => exact (List.destutter_of_isChain _ cs (isChain_of_not_hasDoubleSlash h)).symm

/-- When the rounds have ended there is no double slash. -/
theorem not_hasDoubleSlash_collapseSlashes (cs : List Char) :
    ¬hasDoubleSlash (collapseSlashes cs) = true := by
  fun_induction collapseSlashes cs with
  | case1 cs _ ih => exact ih
  | case2 cs h => exact h

/-- Without double slashes there is no round. -/
theorem collapseSlashes_of_single (h : ¬hasDoubleSlash cs = true) : collapseSlashes cs = cs := by
  rw [collapseSlashes, if_neg h]

/-- The rounds that a text takes: as long as it has a double slash it gets shorter, and the first
text without one is the result. -/
theorem exists_rounds (cs : List Char) :
    ∃ n, collapseSlashes cs = halveSlashes^[n] cs ∧
      ∀ k < n, hasDoubleSlash (halveSlashes^[k] cs) = true ∧
        (halveSlashes^[k + 1] cs).length < (halveSlashes^[k] cs).length := by
  fun_induction collapseSlashes cs with
  | case1 cs hdouble ih =>
    obtain ⟨n, hresult, hrounds⟩ := ih
    refine ⟨n + 1, hresult, fun k hk => ?_⟩
    cases k with
    | zero => exact ⟨hdouble, length_halveSlashes_lt hdouble⟩
    | succ k => exact hrounds k (Nat.lt_of_succ_lt_succ hk)
  | case2 cs _ => exact ⟨0, rfl, fun k hk => absurd hk (Nat.not_lt_zero k)⟩

/-! ## Runs -/

/-- The second text is the first one with every longest run of slashes replaced by one slash. -/
inductive Squeezed : List Char → List Char → Prop
  | nil : Squeezed [] []
  | letter {c : Char} {cs ds : List Char} (hc : c ≠ '/') (h : Squeezed cs ds) :
    Squeezed (c :: cs) (c :: ds)
  | run (n : Nat) {cs ds : List Char} (hcs : cs.head? ≠ some '/') (h : Squeezed cs ds) :
    Squeezed (List.replicate (n + 1) '/' ++ cs) ('/' :: ds)

/-- The runs of every text can be replaced by single slashes. -/
theorem exists_squeezed (cs : List Char) : ∃ ds, Squeezed cs ds := by
  induction cs with
  | nil => exact ⟨[], .nil⟩
  | cons c cs ih =>
    obtain ⟨ds, h⟩ := ih
    by_cases hc : c = '/'
    · subst hc
      -- The slash begins a run, or makes the one that it stands in front of longer.
      cases h with
      | nil => exact ⟨_, .run 0 (by simp) .nil⟩
      | letter hd h => exact ⟨_, .run 0 (by simpa using hd) (.letter hd h)⟩
      | run n hcs h => exact ⟨_, .run (n + 1) hcs h⟩
    · exact ⟨_, .letter hc h⟩

/-- A letter is kept, and the text behind it looked at afresh. -/
theorem destutter'_letter (hc : c ≠ '/') (cs : List Char) :
    cs.destutter' NotBothSlashes c = c :: cs.destutter NotBothSlashes := by
  cases cs with
  | nil => rfl
  | cons d cs => rw [List.destutter'_cons_pos _ (.inl hc), List.destutter_cons']

/-- Behind a slash all others of its run are dropped. -/
theorem destutter'_run (n : Nat) (hcs : cs.head? ≠ some '/') :
    (List.replicate n '/' ++ cs).destutter' NotBothSlashes '/'
      = '/' :: cs.destutter NotBothSlashes := by
  induction n with
  | zero =>
    cases cs with
    | nil => rfl
    | cons d cs =>
      have hd : d ≠ '/' := by simpa using hcs
      rw [List.replicate_zero, List.nil_append, List.destutter'_cons_pos _ (.inr hd),
        List.destutter_cons']
  | succ n ih =>
    rw [List.replicate_succ, List.cons_append, List.destutter'_cons_neg _ (by decide), ih]

theorem Squeezed.destutter_eq (h : Squeezed cs ds) : cs.destutter NotBothSlashes = ds := by
  induction h with
  | nil => rfl
  | letter hc _ ih => rw [List.destutter_cons', destutter'_letter hc, ih]
  | run n hcs _ ih =>
    rw [List.replicate_succ, List.cons_append, List.destutter_cons', destutter'_run n hcs, ih]

/-- The rounds leave one slash of every run. -/
theorem squeezed_iff : Squeezed cs ds ↔ ds = collapseSlashes cs := by
  rw [collapseSlashes_eq_destutter]
  constructor
  · exact fun h => h.destutter_eq.symm
  · rintro rfl
    obtain ⟨ds, h⟩ := exists_squeezed cs
    rwa [h.destutter_eq]

/-! ## What is kept -/

theorem filter_halveSlashes (cs : List Char) :
    (halveSlashes cs).filter (· ≠ '/') = cs.filter (· ≠ '/') := by
  fun_induction halveSlashes cs with
  | case1 cs ih => simpa using ih
  | case2 c cs _ ih => rw [List.filter_cons, List.filter_cons, ih]
  | case3 => rfl

/-- The rounds keep all other characters. -/
theorem filter_collapseSlashes (cs : List Char) :
    (collapseSlashes cs).filter (· ≠ '/') = cs.filter (· ≠ '/') := by
  fun_induction collapseSlashes cs with
  | case1 cs _ ih => rw [ih, filter_halveSlashes]
  | case2 cs _ => rfl

/-! ## Addresses -/

theorem dropWhile_slash_of_head? (h : cs.head? ≠ some '/') : cs.dropWhile (· == '/') = cs := by
  rcases cs with _ | ⟨c, cs⟩
  · rfl
  · exact List.dropWhile_cons_of_neg (by simpa using h)

/-- Of one slash in front of a letter nothing is left. -/
theorem dropWhile_slash (hc : c ≠ '/') (cs : List Char) :
    ('/' :: c :: cs).dropWhile (· == '/') = c :: cs := by
  rw [List.dropWhile_cons_of_pos (by rfl), List.dropWhile_cons_of_neg (by simpa using hc)]

/-- Collapsing keeps the first part of a path. -/
theorem collapseSlashes_cons_cons (hc : c ≠ '/') (cs : List Char) :
    ∃ rest, collapseSlashes ('/' :: c :: cs) = '/' :: c :: rest := by
  generalize hl : '/' :: c :: cs = l
  fun_induction collapseSlashes l generalizing cs with
  | case1 l _ ih =>
    -- Halving starts behind the first letter, because no pair of slashes stands before it.
    subst hl
    refine ih (halveSlashes cs) ?_
    rw [halveSlashes.eq_2 _ _ (fun _ _ h => hc (List.cons.inj h).1),
      halveSlashes.eq_2 _ _ (fun _ h _ => hc h)]
  | case2 l _ => exact ⟨cs, hl.symm⟩

/-- A text without double slashes has one slash in front at most. -/
theorem dropWhile_slash_cases (h : ¬hasDoubleSlash cs = true) :
    (cs = cs.dropWhile (· == '/') ∨ cs = '/' :: cs.dropWhile (· == '/')) ∧
      (cs.dropWhile (· == '/')).head? ≠ some '/' ∧
      ¬hasDoubleSlash (cs.dropWhile (· == '/')) = true := by
  rcases cs with _ | ⟨c, cs⟩
  · exact ⟨.inl rfl, by simp, h⟩
  by_cases hc : c = '/'
  · subst hc
    have hhead : cs.head? ≠ some '/' := by
      intro hhead
      obtain ⟨ds, rfl⟩ := List.head?_eq_some_iff.mp hhead
      exact h rfl
    rw [List.dropWhile_cons_of_pos (by rfl), dropWhile_slash_of_head? hhead]
    rw [hasDoubleSlash_cons fun _ => hhead] at h
    exact ⟨.inr rfl, hhead, h⟩
  · rw [List.dropWhile_cons_of_neg (by simpa using hc)]
    exact ⟨.inl rfl, by simpa using hc, h⟩

/-- A double slash in a text lies in its front, if there is none from the last character of the
front on. -/
theorem isPrefix_of_doubleSlash {front back before : List Char}
    (h : ¬hasDoubleSlash (c :: cs) = true)
    (htext : before ++ c :: cs = front ++ '/' :: '/' :: back) :
    front ++ ['/', '/'] <+: before ++ [c] := by
  induction before generalizing front with
  | nil =>
    refine absurd (hasDoubleSlash_iff_isInfix.mpr ⟨front, back, ?_⟩) h
    rw [List.append_assoc]
    exact htext.symm
  | cons b before ih =>
    rcases front with _ | ⟨a, front⟩
    · obtain ⟨rfl, hrest⟩ := List.cons.inj htext
      refine List.cons_prefix_cons.mpr ⟨rfl, ?_⟩
      rcases before with _ | ⟨d, before⟩
      · rw [(List.cons.inj hrest).1]
        exact List.prefix_refl _
      · rw [(List.cons.inj hrest).1]
        exact List.prefix_append _ _
    · obtain ⟨rfl, hrest⟩ := List.cons.inj htext
      exact List.cons_prefix_cons.mpr ⟨rfl, ih hrest⟩

namespace Endpoint

/-- The address of a new endpoint is not empty and does not end in a slash. -/
theorem baseUrl_of_new {base token : String} {e : Endpoint} (h : new base token = .ok e) :
    e.baseUrl ≠ "" ∧ e.baseUrl.toList.getLast? ≠ some '/' := by
  unfold new at h
  dsimp only at h
  split at h
  · cases h
  · rename_i hne
    obtain rfl := Except.ok.inj h
    refine ⟨hne, fun hlast => ?_⟩
    rw [Text.trimEndSlashes, String.toList_ofList] at hlast
    exact absurd (Text.dropEndWhile_getLast _ _ _ hlast) (by decide)

/-- Two paths have one address if they are alike after the rounds, up to the slash in front. -/
theorem urlOf_eq_iff {e : Endpoint} {path path' : String} :
    e.urlOf path = e.urlOf path' ↔ (collapseSlashes path.toList).dropWhile (· == '/')
      = (collapseSlashes path'.toList).dropWhile (· == '/') := by
  unfold urlOf
  rw [String.append_right_inj, String.ofList_inj]

/-- Addresses of paths that start with different letters differ. -/
theorem urlOf_ne {e : Endpoint} {path path' : String} {c' : Char}
    (hpath : path.toList = '/' :: c :: cs) (hpath' : path'.toList = '/' :: c' :: ds)
    (hc : c ≠ '/') (hc' : c' ≠ '/') (hne : c ≠ c') : e.urlOf path ≠ e.urlOf path' := by
  intro h
  obtain ⟨rest, hrest⟩ := collapseSlashes_cons_cons hc cs
  obtain ⟨rest', hrest'⟩ := collapseSlashes_cons_cons hc' ds
  rw [urlOf_eq_iff, hpath, hpath', hrest, hrest', dropWhile_slash hc,
    dropWhile_slash hc'] at h
  exact hne (List.cons.inj h).1

/-- Nothing but slashes is lost of a path. -/
theorem filter_urlOf (e : Endpoint) (path : String) :
    (e.urlOf path).toList.filter (· ≠ '/')
      = e.baseUrl.toList.filter (· ≠ '/') ++ path.toList.filter (· ≠ '/') := by
  have hdrop (cs : List Char) :
      (cs.dropWhile (· == '/')).filter (· ≠ '/') = cs.filter (· ≠ '/') := by
    induction cs with
    | nil => rfl
    | cons c cs ih =>
      by_cases hc : c = '/'
      · rw [List.dropWhile_cons_of_pos (by simpa using hc), ih,
          List.filter_cons_of_neg (by simpa using hc)]
      · rw [List.dropWhile_cons_of_neg (by simpa using hc)]
  have hslash : "/".toList.filter (· ≠ '/') = [] := by decide
  unfold urlOf
  rw [String.toList_append, String.toList_append, List.filter_append, List.filter_append, hslash,
    List.append_nil, String.toList_ofList, hdrop, filter_collapseSlashes]

/-- A longer path has another address, unless it is longer by slashes only. -/
theorem urlOf_append_ne {e : Endpoint} {path part : String}
    (h : part.toList.filter (· ≠ '/') ≠ []) : e.urlOf (path ++ part) ≠ e.urlOf path := by
  intro heq
  have hfilter : (e.urlOf (path ++ part)).toList.filter (· ≠ '/')
      = (e.urlOf path).toList.filter (· ≠ '/') := by rw [heq]
  rw [filter_urlOf, filter_urlOf, String.toList_append, List.filter_append,
    ← List.append_assoc] at hfilter
  exact h (List.append_right_eq_self.mp hfilter)

/-- The double slashes of an address are those of the endpoint's own. -/
theorem isPrefix_of_urlOf {e : Endpoint} {path : String} {front back : List Char}
    (hne : e.baseUrl ≠ "") (hlast : e.baseUrl.toList.getLast? ≠ some '/')
    (h : (e.urlOf path).toList = front ++ '/' :: '/' :: back) :
    front ++ ['/', '/'] <+: e.baseUrl.toList := by
  obtain ⟨-, hhead, hbody⟩ :=
    dropWhile_slash_cases (not_hasDoubleSlash_collapseSlashes path.toList)
  have htext : (e.urlOf path).toList = e.baseUrl.toList
      ++ '/' :: (collapseSlashes path.toList).dropWhile (· == '/') := by
    simp [urlOf, String.toList_append]
  rw [htext] at h
  generalize (collapseSlashes path.toList).dropWhile (· == '/') = body at h hhead hbody
  rcases List.eq_nil_or_concat e.baseUrl.toList with hnil | ⟨before, c, hbase⟩
  · exact absurd (String.toList_eq_nil_iff.mp hnil) hne
  rw [List.concat_eq_append] at hbase
  rw [hbase, List.getLast?_concat] at hlast
  rw [hbase, List.append_assoc] at h
  rw [hbase]
  -- Neither the slash between the two nor the path makes a double slash.
  have hjoin : ¬hasDoubleSlash (c :: '/' :: body) = true := by
    rw [hasDoubleSlash_cons fun hc => absurd (congrArg some hc) hlast,
      hasDoubleSlash_cons fun _ => hhead]
    exact hbody
  exact isPrefix_of_doubleSlash hjoin h

/-- The address of a path is that of the endpoint, a slash, and a text in which each longest run of
slashes of the path is one slash, without the slash in front. It takes finitely many rounds to get
there. That text has the same address, and two paths have one address exactly if they have the same
such text. No double slash comes from the path or from joining the two. -/
theorem urlOf_canonical (e : Endpoint) (path : String) :
    (∃ n, collapseSlashes path.toList = halveSlashes^[n] path.toList ∧
      ¬['/', '/'] <:+: halveSlashes^[n] path.toList ∧
      ∀ k < n, ['/', '/'] <:+: halveSlashes^[k] path.toList ∧
        (halveSlashes^[k + 1] path.toList).length < (halveSlashes^[k] path.toList).length) ∧
    (∃ squeezed body, Squeezed path.toList squeezed ∧ (squeezed = body ∨ squeezed = '/' :: body) ∧
      body.head? ≠ some '/' ∧ ¬['/', '/'] <:+: body ∧
      e.urlOf path = e.baseUrl ++ "/" ++ String.ofList body ∧
      e.urlOf (String.ofList body) = e.urlOf path) ∧
    (∀ path', e.urlOf path = e.urlOf path' ↔
      ∃ squeezed squeezed', Squeezed path.toList squeezed ∧ Squeezed path'.toList squeezed' ∧
        squeezed.dropWhile (· == '/') = squeezed'.dropWhile (· == '/')) ∧
    ∀ base token made, new base token = .ok made → e.baseUrl = made.baseUrl →
      e.baseUrl ≠ "" ∧ e.baseUrl.toList.getLast? ≠ some '/' ∧
      ∀ front back, (e.urlOf path).toList = front ++ '/' :: '/' :: back →
        front ++ ['/', '/'] <+: e.baseUrl.toList := by
  have hsingle := not_hasDoubleSlash_collapseSlashes path.toList
  refine ⟨?rounds, ?form, fun path' => ?same, fun base token made hnew hbase => ?joined⟩
  case rounds =>
    obtain ⟨n, hresult, hrounds⟩ := exists_rounds path.toList
    refine ⟨n, hresult, ?_, fun k hk => ?_⟩
    · rwa [← hresult, ← hasDoubleSlash_iff_isInfix]
    · rw [← hasDoubleSlash_iff_isInfix]
      exact hrounds k hk
  case form =>
    obtain ⟨hcases, hhead, hbody⟩ := dropWhile_slash_cases hsingle
    refine ⟨_, (collapseSlashes path.toList).dropWhile (· == '/'), squeezed_iff.mpr rfl, hcases,
      hhead, ?_, rfl, ?_⟩
    · rwa [← hasDoubleSlash_iff_isInfix]
    · -- The text has nothing to collapse and nothing to drop.
      rw [urlOf_eq_iff, String.toList_ofList, collapseSlashes_of_single hbody,
        dropWhile_slash_of_head? hhead]
  case same =>
    rw [urlOf_eq_iff]
    constructor
    · exact fun h => ⟨_, _, squeezed_iff.mpr rfl, squeezed_iff.mpr rfl, h⟩
    · rintro ⟨squeezed, squeezed', hpath, hpath', h⟩
      rwa [squeezed_iff.mp hpath, squeezed_iff.mp hpath'] at h
  case joined =>
    obtain ⟨hne, hlast⟩ := baseUrl_of_new hnew
    rw [← hbase] at hne hlast
    exact ⟨hne, hlast, fun front back h => isPrefix_of_urlOf hne hlast h⟩

theorem urlOf_canonical_of_runs :
    let e : Endpoint := ⟨"https://uaa.test", "bearer t", "z", ∅⟩
    new "https://uaa.test//" "bearer t" = .ok ⟨"https://uaa.test", "bearer t", "", ∅⟩ ∧
      e.urlOf "///Groups///////g1//" = "https://uaa.test/Groups/g1/" ∧
      e.baseUrl.toList.getLast? ≠ some '/' ∧
      ∀ front back, (e.urlOf "///Groups///////g1//").toList = front ++ '/' :: '/' :: back →
        front ++ ['/', '/'] <+: e.baseUrl.toList := by
  intro e
  have hnew : new "https://uaa.test//" "bearer t"
      = .ok ⟨"https://uaa.test", "bearer t", "", ∅⟩ := by decide +kernel
  obtain ⟨-, -, -, hjoined⟩ := urlOf_canonical e "///Groups///////g1//"
  obtain ⟨-, hlast, hdouble⟩ := hjoined _ _ _ hnew rfl
  exact ⟨hnew, by decide +kernel, hlast, hdouble⟩

end Endpoint

end UaaAdmin
