import UaaAdmin.Proofs.ManagerCalls
import UaaAdmin.Proofs.SlashRuns
import UaaAdmin.Proofs.TokenAddresses

/-!
# Addresses below an address

Requests go to addresses that are written behind the one of a server, with one slash between the
two. Such a text is read with all parts of the server's address but the path, which is walked on
from the place of the server, and the query and the fragment, which are those of the text behind the
slash (`parse_below`). Nothing that stands there can change the scheme, the user, the host or the
port.

The place of a server is a directory (`placeOf`): it does not matter whether slashes stand at the
end of its address.
-/

namespace UaaAdmin

namespace Url

open Text

/-! ## Walking on -/

/-- The place that some raw segments lead to from `done`, latest segment first. -/
def descend (done : List String) : List (List Char) → List String
  | [] => done
  | cs :: rest =>
    if isDoubleDot cs then descend (above done) rest
    else if isSingleDot cs then descend done rest
    else descend (keptSegment false done cs :: done) rest

/-- A walk goes on from the place that its first steps lead to. -/
theorem walk_append (done : List String) (pieces : List (List Char)) {rest : List (List Char)}
    (h : rest ≠ []) : walk false done (pieces ++ rest) = walk false (descend done pieces) rest := by
  have hne (pieces : List (List Char)) : pieces ++ rest ≠ [] :=
    List.append_ne_nil_of_right_ne_nil pieces h
  fun_induction descend done pieces with
  | case1 done => rfl
  | case2 done cs pieces hdouble ih => rw [List.cons_append, walk, if_pos hdouble, ih]; exact hne _
  | case3 done cs pieces hdouble hsingle ih =>
    rw [List.cons_append, walk, if_neg hdouble, if_pos hsingle, ih]
    exact hne _
  | case4 done cs pieces hdouble hsingle ih =>
    rw [List.cons_append, walk, if_neg hdouble, if_neg hsingle, ih]
    exact hne _

/-- The place that the text of a path leads to, latest segment first. -/
def placeOf (cs : List Char) : List String :=
  if cs = [] then [] else descend [] ((dropSlash true cs).splitOnP (isSlash true))

/-- What stands behind a slash is walked from the place that is in front of it. -/
theorem segmentsOf_append_slash (cs tail : List Char) :
    segmentsOf true (cs ++ '/' :: tail)
      = walk false (placeOf cs) (tail.splitOnP (isSlash true)) := by
  unfold placeOf
  cases cs with
  | nil => rfl
  | cons c cs =>
    have hdrop : dropSlash true (c :: cs ++ '/' :: tail)
        = dropSlash true (c :: cs) ++ '/' :: tail := by
      rw [List.cons_append, dropSlash, dropSlash]
      split <;> rfl
    rw [segmentsOf, hdrop, List.splitOnP_append_cons _ _ (by decide),
      walk_append [] _ (List.splitOnP_ne_nil _ _), if_neg (List.cons_ne_nil c cs)]

/-- A place is where the path in front of it ends, but for empty segments. -/
theorem dropEndWhile_placeOf (cs : List Char) :
    dropEndWhile (· == "") (placeOf cs).reverse = dropEndWhile (· == "") (segmentsOf true cs) := by
  have hempty : segmentsOf true (cs ++ ['/']) = (placeOf cs).reverse ++ [""] := by
    rw [segmentsOf_append_slash]
    exact List.reverse_cons
  rw [← dropEndWhile_segmentsOf_concat cs, hempty, dropEndWhile_concat]
  rfl

/-! ## The cleaned text -/

theorem dropEndWhile_append_cons {α : Type} {p : α → Bool} {a : α} (ha : p a = false)
    (l m : List α) : dropEndWhile p (l ++ a :: m) = l ++ a :: dropEndWhile p m := by
  induction m using List.reverseRecOn with
  | nil => rw [dropEndWhile_concat, ha, if_neg Bool.false_ne_true, dropEndWhile_nil]
  | append_singleton m b ih =>
    have hconcat : l ++ a :: (m ++ [b]) = (l ++ a :: m) ++ [b] := by simp
    rw [hconcat, dropEndWhile_concat, dropEndWhile_concat, ih]
    split
    · rfl
    · exact hconcat.symm

/-- The beginning of a text, cleaned. -/
def cleanFront (cs : List Char) : List Char :=
  (cs.dropWhile fun c => c.toNat ≤ 0x20).filter fun c => !(c == '\t' || c == '\n' || c == '\x0d')

/-- The end of a text, cleaned. -/
def cleanEnd (cs : List Char) : List Char :=
  (dropEndWhile (fun c => c.toNat ≤ 0x20) cs).filter fun c =>
    !(c == '\t' || c == '\n' || c == '\x0d')

/-- What stands in front of a slash and what stands behind it are cleaned by themselves. -/
theorem clean_append_slash (cs tail : List Char) :
    clean (cs ++ '/' :: tail) = cleanFront cs ++ '/' :: cleanEnd tail := by
  have hfront : (cs ++ '/' :: tail).dropWhile (fun c => decide (c.toNat ≤ 0x20))
      = cs.dropWhile (fun c => decide (c.toNat ≤ 0x20)) ++ '/' :: tail :=
    dropWhile_append_of_head? cs (by rintro _ ⟨⟩; decide)
  rw [clean, dropBothWhile, hfront, dropEndWhile_append_cons (by decide), List.filter_append,
    List.filter_cons_of_pos (by decide)]
  rfl

theorem cleanEnd_of_visible {cs : List Char} (h : ∀ c ∈ cs, 0x20 < c.toNat) : cleanEnd cs = cs := by
  have hself : clean ('/' :: cs) = '/' :: cs :=
    clean_of_visible (List.forall_mem_cons.2 ⟨by decide, h⟩)
  have hslash : clean ('/' :: cs) = '/' :: cleanEnd cs := clean_append_slash [] cs
  exact (List.cons.inj (hslash.symm.trans hself)).2

/-- The end of a text that ends visibly is cleaned of nothing but what is dropped everywhere. -/
theorem clean_of_endsVisibly {cs : List Char} (h : EndsVisibly cs) : clean cs = cleanFront cs := by
  have hself : dropEndWhile (fun c : Char => decide (c.toNat ≤ 0x20))
      (cs.dropWhile fun c => c.toNat ≤ 0x20) = cs.dropWhile fun c => c.toNat ≤ 0x20 :=
    dropEndWhile_eq_self_iff.2 fun c hc =>
      decide_eq_false (Nat.not_le.2 (h.of_suffix (List.dropWhile_suffix _) c hc))
  rw [clean, dropBothWhile, hself]
  rfl

/-- Slashes at the end of a text are kept, if it does not end in a blank without them. -/
theorem clean_of_slashes {cs slashes : List Char} (hends : EndsVisibly (cs ++ slashes))
    (hslashes : ∀ c ∈ slashes, c = '/') : clean (cs ++ slashes) = cleanFront cs ++ slashes := by
  rcases slashes with _ | ⟨c, rest⟩
  · rw [List.append_nil] at hends
    rw [List.append_nil, List.append_nil, clean_of_endsVisibly hends]
  · obtain ⟨rfl, hrest⟩ := List.forall_mem_cons.1 hslashes
    rw [clean_append_slash, cleanEnd_of_visible fun c hc => by rw [hrest c hc]; decide]

/-! ## Cutting what was cleaned -/

/-- A text is cut where its front is not, if the mark does not stand there. -/
theorem cutOff_append_front {mark : Char} {front : List Char} (h : mark ∉ front)
    (tail : List Char) :
    cutOff mark (front ++ tail) = (front ++ (cutOff mark tail).1, (cutOff mark tail).2) := by
  by_cases hmark : mark ∈ tail
  · obtain ⟨before, behind, rfl, hbefore⟩ := List.eq_append_cons_of_mem hmark
    have hnot : mark ∉ front ++ before := by
      rw [List.mem_append, not_or]
      exact ⟨h, hbefore⟩
    rw [← List.append_assoc, cutOff_append hnot, cutOff_append hbefore]
  · have hnot : mark ∉ front ++ tail := by
      rw [List.mem_append, not_or]
      exact ⟨h, hmark⟩
    rw [cutOff_eq_self hnot, cutOff_eq_self hmark]

theorem cutScheme?_append {cs body : List Char} {scheme : String}
    (h : cutScheme? cs = some (scheme, body)) (ds : List Char) :
    cutScheme? (cs ++ ds) = some (scheme, body ++ ds) := by
  by_cases hcs : ':' ∈ cs
  · obtain ⟨front, rest, rfl, hfront⟩ := List.eq_append_cons_of_mem hcs
    unfold cutScheme? at h ⊢
    rw [cutOff_append hfront] at h
    rw [List.append_assoc, List.cons_append, cutOff_append hfront]
    dsimp only at h ⊢
    split at h
    · obtain ⟨rfl, rfl⟩ := Prod.mk.inj (Option.some.inj h)
      rename_i hscheme
      rw [if_pos hscheme]
    · cases h
  · unfold cutScheme? at h
    rw [cutOff_eq_self hcs] at h
    cases h

theorem cutAt_append_mark {p : Char → Bool} {d : Char} (hd : p d = true) (cs ds : List Char) :
    cutAt p (cs ++ d :: ds) = ((cutAt p cs).1, (cutAt p cs).2 ++ d :: ds) := by
  induction cs with
  | nil => simp [cutAt, hd]
  | cons c cs ih =>
    by_cases hc : p c = true
    · simp [cutAt, hc]
    · simpa [cutAt, hc] using ih

/-- What stands behind a slash is part of the path, unless there is nothing but slashes in front. -/
theorem bodyParts_append_slash {front : List Char} (h : front.dropWhile (isSlash true) ≠ [])
    (tail : List Char) :
    bodyParts (front ++ '/' :: tail)
      = ((bodyParts front).1, (bodyParts front).2 ++ '/' :: tail) := by
  rw [bodyParts, List.dropWhile_append, if_neg (by rwa [List.isEmpty_iff]),
    cutAt_append_mark (by decide)]
  rfl

/-! ## Reading -/

/-- The part of a text in front of the query and the fragment. -/
def pathPart (cs : List Char) : List Char := (cutOff '?' (cutOff '#' cs).1).1

/-- The query of a text. -/
def queryPart (cs : List Char) : Option (List Char) := (cutOff '?' (cutOff '#' cs).1).2

/-- The fragment of a text. -/
def fragmentPart (cs : List Char) : Option (List Char) := (cutOff '#' cs).2

/-- The address with another path, query and fragment: what stands in a text, walked from some
place. -/
def below (u : Url) (place : List String) (cs : List Char) : Url :=
  { u with
    path := .segments (walk false place ((pathPart cs).splitOnP (isSlash true)))
    query := (queryPart cs).map (encodeText (keptInQuery true))
    fragment := (fragmentPart cs).map (encodeText keptInFragment) }

/-- A text without query and fragment is walked, and that is all. -/
theorem below_of_path {u : Url} (hquery : u.query = none) (hfragment : u.fragment = none)
    (place : List String) {cs : List Char} (hmark : '#' ∉ cs) (hquestion : '?' ∉ cs) :
    u.below place cs
      = { u with path := .segments (walk false place (cs.splitOnP (isSlash true))) } := by
  obtain ⟨scheme, username, password, host, port, path, query, fragment⟩ := u
  subst hquery hfragment
  unfold below pathPart queryPart fragmentPart
  rw [cutOff_eq_self hmark, cutOff_eq_self hquestion]
  rfl

/-- A text with a query and no fragment. -/
theorem below_of_query {u : Url} (hfragment : u.fragment = none) (place : List String)
    {cs query : List Char} (hmark : '#' ∉ cs ++ '?' :: query) (hquestion : '?' ∉ cs) :
    u.below place (cs ++ '?' :: query)
      = { u with
          path := .segments (walk false place (cs.splitOnP (isSlash true)))
          query := some (encodeText (keptInQuery true) query) } := by
  obtain ⟨scheme, username, password, host, port, path, query, fragment⟩ := u
  subst hfragment
  unfold below pathPart queryPart fragmentPart
  rw [cutOff_eq_self hmark, cutOff_append hquestion]
  rfl

/-- An address needs a host behind its user. -/
theorem cutUser_ne_nil_of_authority? {scheme : String} {cs : List Char} {more : Bool}
    {a : Authority} (hspecial : isSpecial scheme = true)
    (h : authority? scheme cs more = .ok a) : (cutUser cs).2 ≠ [] := by
  intro hnil
  unfold authority? at h
  simp only [hspecial, hnil, cutPort, bind, Except.bind, throw, throwThe, MonadExceptOf.throw,
    List.isEmpty_nil, Bool.true_or, Bool.and_true, if_true] at h
  split at h <;> cases h

/-- What follows an authority does not matter where a host is needed. -/
theorem authority?_more {scheme : String} {cs : List Char} {more : Bool} {a : Authority}
    (hspecial : isSpecial scheme = true) (h : authority? scheme cs more = .ok a) (more' : Bool) :
    authority? scheme cs more' = .ok a := by
  have hrest : (cutUser cs).2.isEmpty = false :=
    List.isEmpty_eq_false_iff.2 (cutUser_ne_nil_of_authority? hspecial h)
  unfold authority? at h ⊢
  simp only [hrest, Bool.and_false, Bool.false_and] at h ⊢
  exact h

/-- What is read of a text with a slash behind its authority. -/
theorem parse_web_below {s scheme : String} {front tail : List Char}
    (hcut : cutScheme? (clean s.toList) = some (scheme, front ++ '/' :: tail))
    (hfile : scheme ≠ "file") (hspecial : isSpecial scheme = true) (hfragment : '#' ∉ front)
    (hquery : '?' ∉ front) (hfront : front.dropWhile (isSlash true) ≠ []) :
    parse s = (authority? scheme (bodyParts front).1 true).map fun a =>
      Url.below ⟨scheme, a.username, a.password, some a.host, a.port, .segments [], none, none⟩
        (placeOf (a.rest ++ (bodyParts front).2)) tail := by
  have hmarked (mark : Char) (hslash : mark ≠ '/') (hmark : mark ∉ front) (cs : List Char) :
      cutOff mark (front ++ '/' :: cs)
        = (front ++ '/' :: (cutOff mark cs).1, (cutOff mark cs).2) := by
    rw [List.append_cons, cutOff_append_front, List.append_assoc]
    · rfl
    · rw [List.mem_append, not_or]
      exact ⟨hmark, by simpa using hslash⟩
  unfold parse bodyParts
  rw [hcut]
  simp only [hmarked '#' (by decide) hfragment, hmarked '?' (by decide) hquery, hspecial,
    if_neg hfile, if_true]
  have hparts := bodyParts_append_slash hfront (pathPart tail)
  unfold bodyParts pathPart at hparts
  have hmore (cs ds : List Char) : (cs ++ '/' :: ds).isEmpty = false :=
    List.isEmpty_eq_false_iff.2 (List.append_ne_nil_of_right_ne_nil _ (List.cons_ne_nil _ _))
  simp only [hparts, ← List.append_assoc, hmore, segmentsOf_append_slash, Bool.not_false,
    Bool.true_or, Bool.false_and, Bool.not_true, Bool.false_eq_true, if_false]
  generalize authority? scheme _ _ = read
  cases read <;> rfl

/-- The text is the address of a server that requests can reach: one of the web, without query and
fragment, and without a blank at its end. -/
structure IsServer (base : String) (u : Url) : Prop where
  parse : Url.parse base = .ok u
  web : u.IsOfWeb
  noQuery : u.query = none
  noFragment : u.fragment = none
  ends : EndsVisibly base.toList

/-- The directories that a server stands below, of which its address has no more than empty segments
at the end. -/
structure IsPlace (base : String) (u : Url) (dirs : List String) : Prop where
  directory : Url.parse (trimEndSlashes base ++ "/")
    = .ok { u with path := .segments (dirs ++ [""]) }
  path : ∃ segments, u.path = .segments segments ∧
    dropEndWhile (· == "") dirs = dropEndWhile (· == "") segments

/-- What is written behind the address of a server is read with its parts, and with the path walked
on from its place. -/
theorem parse_below_of_web {base : String} {u : Url} {segments : List String}
    (h : parse base = .ok u) (hweb : u.IsOfWeb) (hpath : u.path = .segments segments)
    (hquery : u.query = none) (hfragment : u.fragment = none) (hends : EndsVisibly base.toList) :
    ∃ place, dropEndWhile (· == "") place.reverse = dropEndWhile (· == "") segments ∧
      ∀ tail, parse (trimEndSlashes base ++ "/" ++ tail)
        = .ok (u.below place (cleanEnd tail.toList)) := by
  obtain ⟨slashes, htext, hslashes⟩ :
      ∃ slashes, (trimEndSlashes base).toList ++ slashes = base.toList ∧ ∀ c ∈ slashes, c = '/' :=
    ⟨_, by rw [trimEndSlashes, String.toList_ofList, dropEndWhile_append_dropped], fun c hc => by
      simpa using List.mem_takeWhile_imp (List.mem_reverse.1 hc)⟩
  have hspecial := isSpecial_of_web hweb
  have hfile := ne_file_of_web hweb
  have hclean : clean base.toList = cleanFront (trimEndSlashes base).toList ++ slashes := by
    rw [← htext] at hends ⊢
    exact clean_of_slashes hends hslashes
  obtain ⟨rest, hcut, hmark, hquestion⟩ := exists_body_of_parse h hquery hfragment
  have hcolon : ':' ∉ slashes := fun hc => absurd (hslashes _ hc) (by decide)
  obtain ⟨body, rfl, hkept⟩ := cutScheme?_of_append hcolon (hclean ▸ hcut)
  rw [parse_web hcut hfile hspecial hmark hquestion] at h
  rw [List.mem_append, not_or] at hmark hquestion
  generalize u.scheme = scheme at h hspecial hfile hkept
  obtain ⟨a, ha, rfl⟩ := map_eq_ok h
  -- Without anything behind the scheme there would be no host.
  have hbody : body.dropWhile (isSlash true) ≠ [] := by
    intro hnil
    have hall : (body ++ slashes).dropWhile (isSlash true) = [] := by
      rw [List.dropWhile_append, hnil]
      exact List.dropWhile_eq_nil_iff.2 fun c hc => by rw [hslashes c hc]; decide
    unfold bodyParts at ha
    rw [hall] at ha
    exact cutUser_ne_nil_of_authority? hspecial ha rfl
  -- The slashes that are dropped have been read as the end of the path.
  have hparts : bodyParts (body ++ slashes)
      = ((bodyParts body).1, (bodyParts body).2 ++ slashes) := by
    rcases slashes with _ | ⟨c, rest⟩
    · rw [List.append_nil, List.append_nil]
    · obtain rfl := hslashes c List.mem_cons_self
      exact bodyParts_append_slash hbody rest
  rw [hparts] at ha hpath
  refine ⟨placeOf (a.rest ++ (bodyParts body).2), ?_, fun tail => ?_⟩
  · rw [dropEndWhile_placeOf, ← dropEndWhile_segmentsOf_append _ hslashes, List.append_assoc]
    exact congrArg _ (Path.segments.inj hpath)
  · have htail : (trimEndSlashes base ++ "/" ++ tail).toList
        = (trimEndSlashes base).toList ++ '/' :: tail.toList := by
      simp [String.toList_append]
    have hcut : cutScheme? (clean (trimEndSlashes base ++ "/" ++ tail).toList)
        = some (scheme, body ++ '/' :: cleanEnd tail.toList) := by
      rw [htail, clean_append_slash]
      exact cutScheme?_append hkept _
    rw [parse_web_below hcut hfile hspecial hmark.1 hquestion.1 hbody,
      authority?_more hspecial ha true]
    rfl

/-- What is written behind the address of a server is read with its parts, and with the path walked
on from its place. -/
theorem IsServer.parse_below {base : String} {u : Url} (h : IsServer base u) :
    ∃ dirs, IsPlace base u dirs ∧ ∀ tail, Url.parse (trimEndSlashes base ++ "/" ++ tail)
      = .ok (u.below dirs.reverse (cleanEnd tail.toList)) := by
  obtain ⟨host, segments, hu⟩ := isSettled_of_parse h.parse h.web h.noQuery h.noFragment
  obtain ⟨place, hplace, hbelow⟩ :=
    parse_below_of_web h.parse h.web hu.pathIs h.noQuery h.noFragment h.ends
  have hdirectory : Url.parse (trimEndSlashes base ++ "/")
      = .ok { u with path := .segments (place.reverse ++ [""]) } := by
    have hwalk : walk false place [[]] = place.reverse ++ [""] := List.reverse_cons
    have hempty := hbelow ""
    rw [String.append_empty] at hempty
    rw [hempty, ← hwalk]
    exact congrArg _ (below_of_path h.noQuery h.noFragment place List.not_mem_nil List.not_mem_nil)
  refine ⟨place.reverse, ⟨hdirectory, segments, hu.pathIs, hplace⟩, fun tail => ?_⟩
  rw [List.reverse_reverse]
  exact hbelow tail

/-- Requests can reach whatever is below the address of a server. -/
theorem IsServer.canReach {base url : String} {u : Url} (h : IsServer base u) {place : List String}
    {cs : List Char} (hparse : Url.parse url = .ok (u.below place cs)) :
    Net.Network.canReach url = true := by
  obtain ⟨host, segments, hu⟩ := isSettled_of_parse h.parse h.web h.noQuery h.noFragment
  have hhost : (u.below place cs).hostText? = some host.print :=
    Login.hostText?_of_proper (u := u.below place cs) hu.hostIs hu.proper
  unfold Net.Network.canReach
  rw [hparse]
  dsimp only
  rw [hhost]
  have hscheme : (u.below place cs).scheme = u.scheme := rfl
  rw [hscheme]
  rcases h.web with hweb | hweb <;> rw [hweb] <;> rfl

end Url

/-! ## Collections -/

namespace Kind

/-- The segments of the path of a collection. -/
def places : Kind → List String
  | client => ["oauth", "clients"]
  | group => ["Groups"]
  | user => ["Users"]
  | zone => ["identity-zones"]

/-- The path of a collection without the slash in front. -/
def bare (k : Kind) : List Char := Url.dropSlash true (Url.pathText k.places)

theorem toList_collection (k : Kind) : k.collection.toList = '/' :: k.bare := by
  cases k <;> decide +kernel

theorem isSegment_places (k : Kind) : ∀ s ∈ k.places, Url.IsSegment s := by
  cases k <;> decide +kernel

theorem exists_bare (k : Kind) : ∃ c cs, k.bare = c :: cs ∧ c ≠ '/' := by
  cases k <;> exact ⟨_, _, rfl, by decide⟩

theorem splitOnP_bare (k : Kind) :
    k.bare.splitOnP (Url.isSlash true) = k.places.map String.toList :=
  Url.splitOnP_pathText (by cases k <;> simp [places]) fun s hs => (k.isSegment_places s hs).whole

theorem bare_bounds (k : Kind) : ∀ c ∈ k.bare, 0x20 < c.toNat ∧ c ≠ '#' ∧ c ≠ '?' := by
  cases k <;> exact List.all_iff_forall_prop.1 (by decide +kernel)

theorem hasDoubleSlash_collection (k : Kind) : hasDoubleSlash k.collection.toList = false := by
  cases k <;> decide +kernel

end Kind

/-! ## Requests -/

theorem hasDoubleSlash_append {cs rest : List Char} (h : '/' ∉ cs) :
    hasDoubleSlash (cs ++ rest) = hasDoubleSlash rest := by
  induction cs with
  | nil => rfl
  | cons c cs ih =>
    rw [List.mem_cons, not_or] at h
    rw [List.cons_append, hasDoubleSlash_cons fun hc => absurd hc.symm h.1, ih h.2]

/-- Names have no slashes in them, so that there is no double slash in their path, if only the last
of them may be empty. -/
theorem hasDoubleSlash_pathText {names : List String} (h : ∀ s ∈ names, '/' ∉ s.toList)
    (hfront : ∀ s ∈ names.dropLast, s ≠ "") : hasDoubleSlash (Url.pathText names) = false := by
  induction names with
  | nil => rfl
  | cons s names ih =>
    obtain ⟨hslash, hnames⟩ := List.forall_mem_cons.1 h
    have htext : Url.pathText (s :: names) = '/' :: (s.toList ++ Url.pathText names) := rfl
    have hhead : (s.toList ++ Url.pathText names).head? ≠ some '/' := by
      intro hhead
      rcases hs : s.toList with _ | ⟨c, cs⟩
      · -- The name is empty, so that it is the last one and nothing follows.
        rcases names with _ | ⟨t, names⟩
        · rw [hs] at hhead
          cases hhead
        · exact hfront s List.mem_cons_self (String.toList_eq_nil_iff.1 hs)
      · rw [hs, List.cons_append, List.head?_cons] at hhead
        rw [hs, Option.some.inj hhead] at hslash
        exact hslash List.mem_cons_self
    rw [htext, hasDoubleSlash_cons fun _ => hhead, hasDoubleSlash_append hslash]
    refine ih hnames fun t ht => ?_
    rcases names with _ | ⟨t', names⟩
    · cases ht
    · exact hfront t (List.mem_cons_of_mem _ ht)

theorem hasDoubleSlash_append_plain (cs : List Char) {ds : List Char} (h : '/' ∉ ds) :
    hasDoubleSlash (cs ++ ds) = hasDoubleSlash cs := by
  fun_induction hasDoubleSlash cs with
  | case1 cs => rfl
  | case2 c cs hne ih =>
    rw [List.cons_append, hasDoubleSlash.eq_2 _ _ fun rest hc hrest => ?_, ih]
    rcases cs with _ | ⟨d, cs⟩
    · rw [List.nil_append] at hrest
      exact h (hrest ▸ List.mem_cons_self)
    · exact hne cs hc (by rw [(List.cons.inj hrest).1])
  | case3 =>
    have hnone : hasDoubleSlash (ds ++ []) = hasDoubleSlash [] := hasDoubleSlash_append h
    rwa [List.append_nil] at hnone

/-- What a path is written as behind the slash of a server. -/
def sentPath (cs : List Char) : List Char := (collapseSlashes cs).dropWhile (· == '/')

/-- A path without double slashes is written as it is. -/
theorem sentPath_of_single {c : Char} {tail : List Char} (hc : c ≠ '/')
    (hsingle : hasDoubleSlash ('/' :: c :: tail) = false) :
    sentPath ('/' :: c :: tail) = c :: tail := by
  have hcollapse : collapseSlashes ('/' :: c :: tail) = '/' :: c :: tail := by
    unfold collapseSlashes
    rw [hsingle, if_neg Bool.false_ne_true]
  rw [sentPath, hcollapse, dropWhile_slash hc]

/-- The exchange is that of a request for the task in a session at the address of a server. -/
inductive AsksAt (base : String) (task : Task) (x : Net.Exchange) : Prop
  | of_call {α : Type} {s : Session} {call : ManagerCall α} {c : Connection}
    (hbase : s.endpoint.baseUrl = Text.trimEndSlashes base) (htask : call.task = task)
    (hlog : ((call.op s).runOn c).2.network.log = c.network.log ++ [x]) : AsksAt base task x

theorem AsksAt.url {base : String} {task : Task} {x : Net.Exchange} (h : AsksAt base task x) :
    x.request.url
      = Text.trimEndSlashes base ++ "/" ++ String.ofList (sentPath task.path.toList) := by
  obtain ⟨hbase, rfl, hlog⟩ := h
  rw [ManagerCall.url_of_log hlog, Endpoint.urlOf, hbase, sentPath]

/-- Every request reaches the server, and asks for its path from the place of the server on. -/
theorem Url.IsServer.parse_asked {base : String} {u : Url} (h : IsServer base u) :
    ∃ dirs, IsPlace base u dirs ∧ ∀ {task x}, AsksAt base task x →
      Net.Network.canReach x.request.url = true ∧
      Url.parse x.request.url
        = .ok (u.below dirs.reverse (cleanEnd (sentPath task.path.toList))) := by
  obtain ⟨dirs, hplace, hbelow⟩ := h.parse_below
  refine ⟨dirs, hplace, fun {task x} hx => ?_⟩
  have hparse : Url.parse x.request.url
      = .ok (u.below dirs.reverse (cleanEnd (sentPath task.path.toList))) := by
    rw [hx.url, hbelow, String.toList_ofList]
  exact ⟨h.canReach hparse, hparse⟩

/-! ## A server with a port and a path -/

/-- A session at the server. -/
def Session.atPort : Session where
  config := { loginEndpoint := "", authEndpoint := "", clientId := "", clientSecret := "" }
  login := ⟨""⟩
  endpoint := ⟨"http://uaa.test:8080/uaa", "bearer t", "", ∅⟩
  clientToken := "bearer t"

theorem baseUrl_atPort :
    Session.atPort.endpoint.baseUrl = Text.trimEndSlashes "http://uaa.test:8080/uaa/" := by
  decide +kernel

/-- The address of the server. -/
def Url.atPort : Url :=
  ⟨"http", "", "", some (.name "uaa.test"), some 8080, .segments ["uaa", ""], none, none⟩

theorem isServer_atPort : Url.IsServer "http://uaa.test:8080/uaa/" Url.atPort := by
  refine ⟨Login.ok_of_toOption (by decide +kernel), .inl rfl, rfl, rfl, fun c hc => ?_⟩
  have hlast : "http://uaa.test:8080/uaa/".toList.getLast? = some '/' := by decide +kernel
  rw [← Option.some.inj (hlast.symm.trans hc)]
  decide

theorem dirs_atPort {dirs : List String}
    (h : Url.IsPlace "http://uaa.test:8080/uaa/" Url.atPort dirs) : dirs = ["uaa"] := by
  have hdirectory : Url.parse (Text.trimEndSlashes "http://uaa.test:8080/uaa/" ++ "/")
      = .ok Url.atPort :=
    Login.ok_of_toOption (by decide +kernel)
  have hsame := Except.ok.inj (hdirectory.symm.trans h.directory)
  have hpath : ["uaa"] ++ [""] = dirs ++ [""] := Url.Path.segments.inj (congrArg Url.path hsame)
  exact (List.append_cancel_right hpath).symm

end UaaAdmin
