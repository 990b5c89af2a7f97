import UaaAdmin.Proofs.Authorities

/-!
# Addresses of the web

An address of the web is one with the scheme `http` or `https`. Read from a text and without query
and fragment, it is settled (`isSettled_of_parse`): user name and password have characters only that
stand for themselves, the host is proper, the port is in range and not the scheme's own, and the
path has segments that are kept. Written down, a settled address is read as itself, as far as its
host is: `parse_print`, and `parse_print_cases`, by which only a label behind the mark can be
refused.
-/

namespace UaaAdmin

namespace Url

open Text

/-! ## What is read -/

/-- The address has the scheme of a web page. -/
def IsOfWeb (u : Url) : Prop :=
  u.scheme = "http" ∨ u.scheme = "https"

/-- The schemes of the web are among those with a host. -/
theorem isSpecial_of_web {u : Url} (h : u.IsOfWeb) : isSpecial u.scheme = true := by
  rcases h with h | h <;> rw [h] <;> decide +kernel

/-- No scheme of the web is that of files. -/
theorem ne_file_of_web {u : Url} (h : u.IsOfWeb) : u.scheme ≠ "file" := by
  rcases h with h | h <;> rw [h] <;> decide +kernel

/-- An address of the web with the given host and path, as reading gives it, without query and
fragment. -/
structure IsSettled (u : Url) (host : Host) (segments : List String) : Prop where
  web : u.IsOfWeb
  username : ∀ c ∈ u.username.toList, keptInUser c = true
  password : ∀ c ∈ u.password.toList, keptInUser c = true
  hostIs : u.host = some host
  proper : host.IsProper
  port : ∀ n, u.port = some n → n ≤ 65535 ∧ defaultPort? u.scheme ≠ some n
  pathIs : u.path = .segments segments
  filled : segments ≠ []
  steps : ∀ s ∈ segments, IsSegment s
  noQuery : u.query = none
  noFragment : u.fragment = none

theorem map_eq_ok {α β ε : Type} {f : α → β} {e : Except ε α} {b : β} (h : e.map f = .ok b) :
    ∃ a, e = .ok a ∧ f a = b := by
  cases e with
  | error why => cases h
  | ok a => exact ⟨a, rfl, Except.ok.inj h⟩

/-- If nothing is cut off at a mark, there is none. -/
theorem not_mem_of_cutOff {mark : Char} {cs : List Char} (h : (cutOff mark cs).2 = none) :
    mark ∉ cs := by
  unfold cutOff at h
  split at h
  · cases h
  · rename_i front hcut
    have hrest : cs.dropWhile (!· == mark) = [] := congrArg Prod.snd hcut
    intro hmem
    have hne := List.dropWhile_eq_nil_iff.1 hrest mark hmem
    rw [beq_self_eq_true] at hne
    cases hne

/-- What follows the scheme of a web address, as far as its path: behind the slashes, the authority
and the path. -/
def bodyParts (cs : List Char) : List Char × List Char :=
  cutAt (isSlash true) (cs.dropWhile (isSlash true))

/-- What is read of the text behind the scheme of a web address, which has no marks of a query or a
fragment. -/
theorem parse_web {s scheme : String} {rest : List Char}
    (hcut : cutScheme? (clean s.toList) = some (scheme, rest)) (hfile : scheme ≠ "file")
    (hspecial : isSpecial scheme = true) (hfragment : '#' ∉ rest) (hquery : '?' ∉ rest) :
    parse s =
      (authority? scheme (bodyParts rest).1 (!(bodyParts rest).2.isEmpty)).map fun a =>
        ⟨scheme, a.username, a.password, some a.host, a.port,
          .segments (segmentsOf true (a.rest ++ (bodyParts rest).2)), none, none⟩ := by
  unfold parse bodyParts
  rw [hcut]
  simp only [cutOff_eq_self hfragment, cutOff_eq_self hquery, hspecial, if_neg hfile, if_true,
    Option.map_none, Option.isSome_none, Bool.or_false]
  generalize authority? scheme _ _ = read
  cases read with
  | error why => rfl
  | ok a => simp [bind, Except.bind, pure, Except.pure, Except.map]

/-- An address without query and fragment has neither mark behind its scheme. -/
theorem exists_body_of_parse {s : String} {u : Url} (h : parse s = .ok u)
    (hquery : u.query = none) (hfragment : u.fragment = none) :
    ∃ rest, cutScheme? (clean s.toList) = some (u.scheme, rest) ∧ '#' ∉ rest ∧ '?' ∉ rest := by
  unfold parse at h
  split at h
  · rename_i scheme rest hcut
    simp only [bind, Except.bind, pure, Except.pure] at h
    have hparts : u.scheme = scheme ∧ (cutOff '#' rest).2 = none ∧
        (cutOff '?' (cutOff '#' rest).1).2 = none := by
      split at h
      · split at h <;> cases h
        simpa using And.intro hfragment hquery
      split at h
      · split at h <;> cases h
        simpa using And.intro hfragment hquery
      split at h
      · split at h <;> cases h
        simpa using And.intro hfragment hquery
      · cases h
        simpa using And.intro hfragment hquery
      · cases h
        simpa using And.intro hfragment hquery
    obtain ⟨rfl, hmark, hquery⟩ := hparts
    have hmark := not_mem_of_cutOff hmark
    rw [cutOff_eq_self hmark] at hquery
    exact ⟨rest, hcut, hmark, not_mem_of_cutOff hquery⟩
  · cases h

/-- An address of the web that is read without query and fragment is settled. -/
theorem isSettled_of_parse {s : String} {u : Url} (h : parse s = .ok u) (hweb : u.IsOfWeb)
    (hquery : u.query = none) (hfragment : u.fragment = none) :
    ∃ host segments, u.IsSettled host segments := by
  have hspecial := isSpecial_of_web hweb
  obtain ⟨rest, hcut, hmark, hquestion⟩ := exists_body_of_parse h hquery hfragment
  rw [parse_web hcut (ne_file_of_web hweb) hspecial hmark hquestion] at h
  generalize u.scheme = scheme at h hspecial
  obtain ⟨a, ha, rfl⟩ := map_eq_ok h
  obtain ⟨husername, hpassword, hproper, hport⟩ := authority?_spec hspecial ha
  exact ⟨a.host, _, hweb, husername, hpassword, rfl, hproper, hport, rfl, segmentsOf_ne_nil _,
    isSegment_of_mem_segmentsOf, rfl, rfl⟩

/-! ## Reading what was written -/

theorem dropWhile_append_of_head? {α : Type} {p : α → Bool} (l : List α) {m : List α}
    (h : ∀ a, m.head? = some a → p a = false) :
    (l ++ m).dropWhile p = l.dropWhile p ++ m := by
  have hm : m.dropWhile p = m := by
    cases m with
    | nil => rfl
    | cons a m => rw [List.dropWhile_cons_of_neg (by rw [h a rfl]; exact Bool.false_ne_true)]
  rw [List.dropWhile_append, hm]
  split
  · rename_i hnil
    rw [List.isEmpty_iff.1 hnil, List.nil_append]
  · rfl

/-- A visible text has nothing in it that would be dropped. -/
theorem clean_of_visible {cs : List Char} (h : ∀ c ∈ cs, 0x20 < c.toNat) : clean cs = cs := by
  have hkept {c : Char} (hc : c ∈ cs) : decide (c.toNat ≤ 0x20) = false :=
    decide_eq_false (Nat.not_le.2 (h c hc))
  have hfront : cs.dropWhile (fun c => decide (c.toNat ≤ 0x20)) = cs :=
    dropWhile_append_of_head? [] fun c hc => hkept (List.mem_of_head? hc)
  have hends : Text.dropBothWhile (fun c => decide (c.toNat ≤ 0x20)) cs = cs := by
    rw [dropBothWhile, hfront, dropEndWhile_eq_self_iff]
    exact fun c hc => hkept (List.mem_of_getLast? hc)
  rw [clean, hends]
  refine List.filter_eq_self.2 fun c hc => ?_
  have hvisible := h c hc
  have hne {d : Char} (hd : d.toNat ≤ 0x20) : (c == d) = false := beq_false_of_ne fun heq => by
    rw [heq] at hvisible
    omega
  rw [hne (by decide), hne (by decide), hne (by decide)]
  rfl

/-- A settled address is written from scheme, authority and path. -/
theorem toList_print {u : Url} {host : Host} {segments : List String}
    (hu : u.IsSettled host segments) :
    u.print.toList
      = u.scheme.toList ++ ':' :: '/' :: '/' :: (authorityText u host ++ pathText segments) := by
  have hslashes : "//".toList = ['/', '/'] := rfl
  have hcolon : ":".toList = [':'] := rfl
  simp only [print, printAuthority, hu.hostIs, hu.noQuery, hu.noFragment, hu.pathIs,
    Option.map_none, Option.getD_none, String.append_empty, String.toList_append,
    toList_print_segments, authorityText, printPort, hslashes, hcolon, List.append_assoc,
    List.cons_append, List.nil_append]

/-- A scheme of the web is cut off as it is written. -/
theorem cutScheme?_web {u : Url} (h : u.IsOfWeb) (cs : List Char) :
    cutScheme? (u.scheme.toList ++ ':' :: cs) = some (u.scheme, cs) := by
  have hsecure : "https".toList = ['h', 't', 't', 'p', 's'] := by decide
  rcases h with h | h
  · rw [h]
    rfl
  · rw [h, hsecure]
    rfl

/-- Nothing in a written authority ends it. -/
theorem isInner_of_mem_authority {u : Url} {host : Host} {segments : List String}
    (hu : u.IsSettled host segments) : ∀ c ∈ authorityText u host, IsInner c := by
  have huser : ∀ c ∈ u.printUser.toList, IsInner c := by
    intro c hc
    unfold printUser at hc
    split at hc
    · cases hc
    simp only [String.toList_append, List.mem_append] at hc
    rcases hc with (hc | hc) | hc
    · exact isInner_of_keptInUser (hu.username c hc)
    · split at hc
      · cases hc
      rw [String.toList_append, List.mem_append] at hc
      rcases hc with hc | hc
      · rw [List.mem_singleton.1 hc]
        decide +kernel
      · exact isInner_of_keptInUser (hu.password c hc)
    · rw [List.mem_singleton.1 hc]
      decide +kernel
  refine List.forall_mem_append.2 ⟨huser, List.forall_mem_append.2
    ⟨fun c hc => (isInner_of_mem_host hu.proper c hc).1, fun c hc => ?_⟩⟩
  rcases mem_printPort hc with rfl | hc
  · decide +kernel
  · exact isInner_of_digit hc

theorem authorityText_ne_nil {u : Url} {host : Host} (h : host.IsProper) :
    authorityText u host ≠ [] :=
  List.append_ne_nil_of_right_ne_nil _
    (List.append_ne_nil_of_left_ne_nil (print_host_ne_nil h) _)

/-- The path ends no address: it has neither blanks nor the marks of a query and a fragment. -/
theorem mem_pathText_bounds {segments : List String} (h : ∀ s ∈ segments, IsSegment s) :
    ∀ c ∈ pathText segments, 0x20 < c.toNat ∧ c ≠ '#' ∧ c ≠ '?' := by
  intro c hc
  rcases mem_pathText hc with rfl | ⟨s, hs, hc⟩
  · decide
  · have hkept := (h s hs).kept c hc
    exact ⟨(keptInPath_bounds hkept).1, ne_of_kept hkept (by decide +kernel),
      ne_of_kept hkept (by decide +kernel)⟩

/-- What follows the scheme ends at no mark. -/
theorem body_bounds {u : Url} {host : Host} {segments : List String}
    (hu : u.IsSettled host segments) :
    ∀ c ∈ '/' :: '/' :: (authorityText u host ++ pathText segments),
      0x20 < c.toNat ∧ c ≠ '#' ∧ c ≠ '?' := by
  refine List.forall_mem_cons.2 ⟨by decide, List.forall_mem_cons.2 ⟨by decide,
    List.forall_mem_append.2 ⟨fun c hc => ?_, mem_pathText_bounds hu.steps⟩⟩⟩
  have hinner := isInner_of_mem_authority hu c hc
  exact ⟨hinner.visible, hinner.noFragment, hinner.noQuery⟩

/-- Nothing in a written address would be dropped. -/
theorem clean_print {u : Url} {host : Host} {segments : List String}
    (hu : u.IsSettled host segments) : clean u.print.toList = u.print.toList := by
  refine clean_of_visible fun c hc => ?_
  rw [toList_print hu] at hc
  rcases List.mem_append.1 hc with hc | hc
  · have hscheme : ∀ c ∈ "http".toList ++ "https".toList, 0x20 < c.toNat :=
      List.all_iff_forall_prop.1 (by decide +kernel)
    refine hscheme c (List.mem_append.2 ?_)
    rcases hu.web with h | h
    · exact .inl (h ▸ hc)
    · exact .inr (h ▸ hc)
  · rcases List.mem_cons.1 hc with rfl | hc
    · decide
    · exact (body_bounds hu c hc).1

/-- The authority stands between the two slashes and the path. -/
theorem bodyParts_print {u : Url} {host : Host} {segments : List String}
    (hu : u.IsSettled host segments) :
    bodyParts ('/' :: '/' :: (authorityText u host ++ pathText segments))
      = (authorityText u host, pathText segments) := by
  obtain ⟨c, cs, htext⟩ := List.exists_cons_of_ne_nil (authorityText_ne_nil (u := u) hu.proper)
  have hwhole : ∀ c ∈ authorityText u host, isSlash true c = false := fun c hc =>
    (isInner_of_mem_authority hu c hc).noSlash
  have hfirst : ¬isSlash true c = true := by
    rw [hwhole c (by rw [htext]; exact List.mem_cons_self)]
    exact Bool.false_ne_true
  have hdrop : ('/' :: '/' :: (authorityText u host ++ pathText segments)).dropWhile (isSlash true)
      = authorityText u host ++ pathText segments := by
    rw [List.dropWhile_cons_of_pos (by decide), List.dropWhile_cons_of_pos (by decide), htext,
      List.cons_append, List.dropWhile_cons_of_neg hfirst]
  rw [bodyParts, hdrop]
  refine cutAt_append hwhole fun d hd => ?_
  obtain ⟨s, segments, rfl⟩ := List.exists_cons_of_ne_nil hu.filled
  obtain rfl : '/' = d := Option.some.inj hd
  decide

/-- What is written of a settled address is read as its parts, and the host as what its written form
is read as. -/
theorem parse_print {u : Url} {host : Host} {segments : List String}
    (hu : u.IsSettled host segments) :
    parse u.print
      = (domainHost? host.print.toList).map fun h => { u with host := some h } := by
  have hscheme : cutScheme? (clean u.print.toList)
      = some (u.scheme, '/' :: '/' :: (authorityText u host ++ pathText segments)) := by
    rw [clean_print hu, toList_print hu, cutScheme?_web hu.web]
  have hspecial := isSpecial_of_web hu.web
  rw [parse_web hscheme (ne_file_of_web hu.web) hspecial (fun hc => (body_bounds hu _ hc).2.1 rfl)
      (fun hc => (body_bounds hu _ hc).2.2 rfl),
    bodyParts_print hu, authority?_print hspecial hu.username hu.password hu.proper hu.port]
  cases domainHost? host.print.toList with
  | error why => rfl
  | ok h =>
    simp only [Except.map, List.nil_append, segmentsOf_pathText hu.filled hu.steps, hu.pathIs,
      hu.noQuery, hu.noFragment]

/-- A settled address is read as itself; only a label behind the mark can be refused. -/
theorem parse_print_cases {u : Url} {host : Host} {segments : List String}
    (hu : u.IsSettled host segments) :
    parse u.print = .ok u ∨ parse u.print = .error .badDomain ∧ host.IsCoded := by
  rw [parse_print hu]
  rcases domainHost?_print hu.proper with hread | ⟨hread, hcoded⟩
  · left
    rw [hread, Except.map, ← hu.hostIs]
  · exact .inr ⟨by rw [hread, Except.map], hcoded⟩

end Url

end UaaAdmin
