import UaaAdmin.Admin.Login
import UaaAdmin.Proofs.EndSlashes

/-!
# Where tokens are asked for

The request for a token carries the client's secret, so that it matters to whom it goes. The address
keeps scheme, user, port and path of the login server's, and its host is the login server's own
without a subdomain. A subdomain without colons gives a host below the login server's, whatever it
is made of: percent signs, capitals and marks are resolved and folded in front of the full stop
only, and in front of a number there is no host. A subdomain with a colon is cut in front of it,
together with the login server behind it, and may name any host.

The payoff is `token_address_parts`; `token_address_elsewhere` is a subdomain that leads away.
-/

namespace UaaAdmin

open Text

namespace Url

/-! ## Another host -/

/-- A host in brackets is taken as a whole. -/
def IsBracketed (cs : List Char) : Prop :=
  cs.head? = some '[' ∧ cs.getLast? = some ']'

/-- Any other host ends in front of its first colon. -/
def upToColon (cs : List Char) : List Char :=
  cs.takeWhile fun c => !(c == ':')

theorem withHost_ok {u v : Url} {text : String} (hspecial : isSpecial u.scheme = true)
    (h : u.withHost text = .ok v) :
    ∃ host, v = { u with host := some host } ∧
      (IsBracketed text.toList ∧ domainHost? text.toList = .ok host ∨
        ¬IsBracketed text.toList ∧ domainHost? (upToColon text.toList) = .ok host) := by
  have hcut : (cutAt (· == ':') text.toList).1 = upToColon text.toList := rfl
  unfold withHost at h
  simp only [hspecial, bind, Except.bind, pure, Except.pure, throw, throwThe, MonadExceptOf.throw,
    if_true, hcut] at h
  split at h
  · cases h
  split at h
  · cases h
  rename_i host hhost
  cases h
  refine ⟨host, rfl, ?_⟩
  by_cases hbracket : IsBracketed text.toList
  · rw [if_pos (by simpa [IsBracketed] using hbracket)] at hhost
    exact .inl ⟨hbracket, hhost⟩
  · rw [if_neg (by simpa [IsBracketed] using hbracket)] at hhost
    exact .inr ⟨hbracket, hhost⟩

theorem upToColon_append {cs : List Char} (h : ':' ∉ cs) (ds : List Char) :
    upToColon (cs ++ ds) = cs ++ upToColon ds :=
  List.takeWhile_append_of_pos fun c hc => by
    have hne : c ≠ ':' := fun heq => h (heq ▸ hc)
    simp [hne]

theorem upToColon_eq_self {cs : List Char} (h : ':' ∉ cs) : upToColon cs = cs := by
  have hall := upToColon_append h []
  rw [List.append_nil] at hall
  exact hall.trans (List.append_nil cs)

/-- Behind a colon nothing counts. -/
theorem upToColon_append_colon {cs : List Char} (h : ':' ∈ cs) (ds : List Char) :
    upToColon (cs ++ ds) = upToColon cs := by
  induction cs with
  | nil => cases h
  | cons c cs ih =>
    by_cases hc : c = ':'
    · subst hc
      rfl
    · have ih := ih ((List.mem_cons.1 h).resolve_left (Ne.symm hc))
      simpa [upToColon, hc] using ih

theorem mem_of_mem_upToColon {cs : List Char} {c : Char} (h : c ∈ upToColon cs) : c ∈ cs :=
  (List.takeWhile_sublist _).subset h

/-! ## A subdomain in front of the host -/

/-- The host of a zone's address: a name below the login server's, or, if the subdomain has a colon,
whatever stands in front of it. -/
inductive IsZoneHost (login : Host) (subdomain : String) : Host → Prop
  | below (front : String) (plain : ':' ∉ subdomain.toList) :
    IsZoneHost login subdomain (.name (front ++ "." ++ login.print))
  | elsewhere (host : Host) (colon : ':' ∈ subdomain.toList)
    (read : domainHost? (upToColon subdomain.toList) = .ok host) : IsZoneHost login subdomain host

/-- A settled host has neither colons nor brackets, so that it is read to its end. -/
theorem isZoneHost_of_settled {login host : Host} {subdomain : String}
    (hsettled : ∀ c ∈ login.print.toList, Domain.IsSettled c)
    (hbelow : domainHost? (subdomain.toList ++ '.' :: login.print.toList) = .ok host →
      ∃ front, host = .name (front ++ "." ++ login.print))
    (hread : domainHost? (upToColon (subdomain.toList ++ '.' :: login.print.toList)) = .ok host) :
    IsZoneHost login subdomain host := by
  by_cases hcolon : ':' ∈ subdomain.toList
  · rw [upToColon_append_colon hcolon] at hread
    exact .elsewhere host hcolon hread
  · have hall : ':' ∉ subdomain.toList ++ '.' :: login.print.toList := by
      rw [List.mem_append, List.mem_cons, not_or, not_or]
      exact ⟨hcolon, by decide, not_mem_of_settled (by decide +kernel) hsettled⟩
    rw [upToColon_eq_self hall] at hread
    obtain ⟨front, rfl⟩ := hbelow hread
    exact .below front hcolon

theorem not_isBracketed_of_settled {cs ds : List Char} (hds : ∀ c ∈ ds, Domain.IsSettled c)
    (hne : ds ≠ []) : ¬IsBracketed (cs ++ '.' :: ds) := fun h =>
  getLast?_ne_of_settled hds hne h.2

/-- In front of a number of version 6 nothing can stand, wherever it is cut behind its bracket. -/
theorem domainHost?_append_ipv6 {cs ds : List Char} {ns : List Nat} {h : Host}
    (hds : ∀ c ∈ ds, c ∈ (printIpv6 ns).toList ++ [']']) :
    domainHost? (cs ++ '.' :: '[' :: ds) ≠ .ok h := by
  have hbounds : ∀ c ∈ '[' :: ds, c.toNat < 0x80 ∧ c ≠ '%' := by
    refine List.forall_mem_cons.2 ⟨by decide, fun c hc => ?_⟩
    rcases List.mem_append.1 (hds c hc) with hc | hc
    · refine ⟨?_, ne_of_mem_printIpv6 hc (by decide) (by decide)⟩
      rcases mem_printIpv6 hc with rfl | hc
      · decide
      · exact plain_of_digit hc
    · rw [List.mem_singleton.1 hc]
      decide
  exact domainHost?_append_bracket (fun c hc => (hbounds c hc).1)
    (fun hc => (hbounds _ hc).2 rfl) List.mem_cons_self

theorem isZoneHost_of_read {login host : Host} (hproper : login.IsProper) {subdomain : String}
    (hread : IsBracketed (subdomain.toList ++ '.' :: login.print.toList) ∧
        domainHost? (subdomain.toList ++ '.' :: login.print.toList) = .ok host ∨
      ¬IsBracketed (subdomain.toList ++ '.' :: login.print.toList) ∧
        domainHost? (upToColon (subdomain.toList ++ '.' :: login.print.toList)) = .ok host) :
    IsZoneHost login subdomain host := by
  have hne := print_host_ne_nil hproper
  cases login with
  | name text =>
    rcases hread with ⟨hbracket, -⟩ | ⟨-, hread⟩
    · exact absurd hbracket (not_isBracketed_of_settled hproper.2.1 hne)
    · exact isZoneHost_of_settled hproper.2.1 (domainHost?_append_name hproper) hread
  | ipv4 n =>
    rcases hread with ⟨hbracket, -⟩ | ⟨-, hread⟩
    · exact absurd hbracket (not_isBracketed_of_settled (settled_printIpv4 n) hne)
    · exact isZoneHost_of_settled (settled_printIpv4 n)
        (fun hwhole => absurd hwhole domainHost?_append_ipv4) hread
  | ipv6 ns =>
    rw [toList_print_ipv6] at hread
    rcases hread with ⟨-, hread⟩ | ⟨-, hread⟩
    · exact absurd hread (domainHost?_append_ipv6 fun _ hc => hc)
    · by_cases hcolon : ':' ∈ subdomain.toList
      · rw [upToColon_append_colon hcolon] at hread
        exact .elsewhere host hcolon hread
      · rw [upToColon_append hcolon] at hread
        exact absurd hread (domainHost?_append_ipv6 fun _ hc => mem_of_mem_upToColon hc)

end Url

namespace Login

open Url

/-! ## The address of the zone -/

theorem zoneUrl_ok {l : Login} {subdomain : String} {u v : Url} (hparse : Url.parse l.url = .ok u)
    (h : l.zoneUrl subdomain = .ok v) :
    subdomain = "" ∧ v = u ∨
      subdomain ≠ "" ∧ ∃ host, u.hostText? = some host ∧
        u.withHost (zoneHost subdomain host) = .ok v := by
  unfold zoneUrl at h
  simp only [hparse, bind, Except.bind, pure, Except.pure, throw, throwThe,
    MonadExceptOf.throw] at h
  split at h
  · cases h
  split at h
  · rename_i hempty
    cases h
    exact .inl ⟨hempty, rfl⟩
  rename_i hsubdomain
  right
  split at h
  · cases h
  rename_i host hhost
  split at h
  · rename_i w hw
    cases h
    exact ⟨hsubdomain, host, hhost, hw⟩
  · cases h

theorem hostText?_of_proper {u : Url} {host : Host} (h : u.host = some host)
    (hproper : host.IsProper) : u.hostText? = some host.print := by
  unfold hostText?
  rw [h]
  cases host with
  | name text =>
    split
    · rename_i hempty
      cases hempty
      exact absurd rfl hproper.1
    · rename_i heq
      cases heq
      rfl
    · rename_i heq
      cases heq
  | ipv4 n => rfl
  | ipv6 ns => rfl

/-- The address of a zone is that of the login server with another host, which is proper again. -/
theorem zoneUrl_settled {l : Login} {subdomain : String} {u v : Url} {login : Host}
    {segments : List String} (hparse : Url.parse l.url = .ok u) (hu : u.IsSettled login segments)
    (h : l.zoneUrl subdomain = .ok v) :
    ∃ host, v = { u with host := some host } ∧ host.IsProper ∧
      (subdomain = "" → host = login) ∧ (subdomain ≠ "" → IsZoneHost login subdomain host) := by
  rcases zoneUrl_ok hparse h with ⟨hempty, rfl⟩ | ⟨hsubdomain, text, htext, hv⟩
  · exact ⟨login, by rw [← hu.hostIs], hu.proper, fun _ => rfl, fun hne => absurd hempty hne⟩
  · rw [hostText?_of_proper hu.hostIs hu.proper, Option.some.injEq] at htext
    subst htext
    obtain ⟨host, rfl, hread⟩ := withHost_ok (isSpecial_of_web hu.web) hv
    have hzone : (zoneHost subdomain login.print).toList
        = subdomain.toList ++ '.' :: login.print.toList := by
      simp [zoneHost]
    rw [hzone] at hread
    refine ⟨host, rfl, ?_, fun hempty => absurd hempty hsubdomain,
      fun _ => isZoneHost_of_read hu.proper hread⟩
    rcases hread with ⟨-, hread⟩ | ⟨-, hread⟩ <;> exact isProper_of_domainHost? hread

end Login

namespace Url

/-! ## The path behind it -/

/-- The segments of the path of tokens, behind the path with the given segments. -/
def tokenSegments (segments : List String) : List String :=
  dropEndWhile (· == "") segments ++ ["oauth", "token"]

theorem isSegment_tokenSegments {segments : List String} (h : ∀ s ∈ segments, IsSegment s) :
    ∀ s ∈ tokenSegments segments, IsSegment s := by
  have htoken : ∀ s ∈ ["oauth", "token"], IsSegment s := by decide +kernel
  exact List.forall_mem_append.2
    ⟨fun s hs => h s ((dropEndWhile_isPrefix _ _).subset hs), htoken⟩

theorem IsSettled.withTokenPath {u : Url} {host : Host} {segments : List String}
    (hu : u.IsSettled host segments) :
    { u with path := .segments (tokenSegments segments) }.IsSettled host (tokenSegments segments) :=
  { hu with
    pathIs := rfl
    filled := by simp [tokenSegments]
    steps := isSegment_tokenSegments hu.steps }

/-- Of an address without the slashes at its end, only the path has lost some. -/
theorem toList_trimEndSlashes_print {u : Url} {host : Host} {segments : List String}
    (hu : u.IsSettled host segments) :
    (trimEndSlashes u.print).toList
      = u.scheme.toList ++ ':' :: '/' :: '/' ::
        (authorityText u host ++ pathText (dropEndWhile (· == "") segments)) := by
  have hne : authorityText u host ≠ [] := authorityText_ne_nil hu.proper
  have hlast : (u.scheme.toList ++ ':' :: '/' :: '/' :: authorityText u host).getLast?
      ≠ some '/' := by
    have hsplit : u.scheme.toList ++ ':' :: '/' :: '/' :: authorityText u host
        = (u.scheme.toList ++ [':', '/', '/']) ++ authorityText u host := by simp
    rw [hsplit, List.getLast?_append_of_ne_nil _ hne]
    intro hslash
    exact absurd (isInner_of_mem_authority hu _ (List.mem_of_getLast? hslash)).noSlash (by decide)
  have hsegments : ∀ s ∈ segments, '/' ∉ s.toList := fun s hs hmem =>
    absurd ((hu.steps s hs).whole _ hmem) (by decide)
  have htext := dropEndWhile_pathText hlast hsegments
  rw [trimEndSlashes, String.toList_ofList, toList_print hu]
  simpa using htext

/-- The path of tokens takes the place of the slashes at the end of an address. -/
theorem trimEndSlashes_print {u : Url} {host : Host} {segments : List String}
    (hu : u.IsSettled host segments) :
    trimEndSlashes u.print ++ "/oauth/token"
      = { u with path := .segments (tokenSegments segments) }.print := by
  have hpath : pathText (tokenSegments segments)
      = pathText (dropEndWhile (· == "") segments) ++ "/oauth/token".toList := by
    rw [pathText, tokenSegments, List.flatMap_append]
    rfl
  refine String.toList_inj.1 ?_
  rw [String.toList_append, toList_trimEndSlashes_print hu, toList_print hu.withTokenPath, hpath]
  simp [authorityText, printUser]

/-- The path of an address without the slashes at its end. -/
theorem toList_trimEndSlashes_segments {segments : List String}
    (h : ∀ s ∈ segments, IsSegment s) :
    (trimEndSlashes (Path.segments segments).print).toList
      = pathText (dropEndWhile (· == "") segments) := by
  have hdrop : dropEndWhile (· == '/') ([] ++ pathText segments)
      = [] ++ pathText (dropEndWhile (· == "") segments) :=
    dropEndWhile_pathText (by simp) fun s hs hmem => absurd ((h s hs).whole _ hmem) (by decide)
  rwa [trimEndSlashes, String.toList_ofList, toList_print_segments]

/-- An address in its parts, without the slashes at its end. -/
theorem trimEndSlashes_print_parts {u : Url} {host : Host} {segments : List String}
    (hu : u.IsSettled host segments) :
    trimEndSlashes u.print
      = u.scheme ++ "://" ++ u.printUser ++ host.print ++ printPort u.port
        ++ trimEndSlashes (Path.segments segments).print := by
  refine String.toList_inj.1 ?_
  rw [toList_trimEndSlashes_print hu, String.toList_append, toList_trimEndSlashes_segments hu.steps]
  simp [authorityText]

end Url

namespace Login

open Url

/-! ## The address of tokens -/

/-- The address of tokens in its parts, which are those of the address that the login server is kept
under. -/
theorem tokenUrl_parts {l : Login} {subdomain address : String} {u : Url} {login : Host}
    {segments : List String} (hparse : Url.parse l.url = .ok u) (hu : u.IsSettled login segments)
    (htoken : l.tokenUrl subdomain = .ok address) :
    ∃ host, (subdomain = "" → host = login) ∧ (subdomain ≠ "" → IsZoneHost login subdomain host) ∧
      address = u.scheme ++ "://" ++ u.printUser ++ host.print ++ printPort u.port
        ++ trimEndSlashes (Path.segments segments).print ++ "/oauth/token" ∧
      (Url.parse address
          = .ok { u with host := some host, path := .segments (tokenSegments segments) } ∨
        Url.parse address = .error .badDomain ∧ host.IsCoded) := by
  unfold tokenUrl at htoken
  split at htoken
  · rename_i v hv
    obtain ⟨host, rfl, hproper, hitself, hzone⟩ := zoneUrl_settled hparse hu hv
    cases htoken
    have hv : { u with host := some host }.IsSettled host segments :=
      { hu with hostIs := rfl, proper := hproper }
    refine ⟨host, hitself, hzone, ?_, ?_⟩
    · rw [trimEndSlashes_print_parts hv]
      rfl
    · rw [trimEndSlashes_print hv]
      exact parse_print_cases hv.withTokenPath
  · cases htoken

theorem ok_of_toOption {α ε : Type} {e : Except ε α} {a : α} (h : e.toOption = some a) :
    e = .ok a := by
  cases e with
  | error why => cases h
  | ok b => rw [Option.some.inj h]

/-- The address of tokens has all parts of the login server's but the host, which is a zone's. Its
path goes on behind the one that is `kept` of the login server's, which is that one without empty
segments at its end unless a blank stood in front of the slashes. -/
theorem token_address_parts {url subdomain address : String} {u : Url}
    (hparse : Url.parse url = .ok u) (hweb : u.scheme = "http" ∨ u.scheme = "https")
    (hquery : u.query = none) (hfragment : u.fragment = none)
    (htoken : (Login.new url).tokenUrl subdomain = .ok address) :
    ∃ login host kept, u.host = some login ∧ (subdomain = "" → host = login) ∧
      (subdomain ≠ "" → IsZoneHost login subdomain host) ∧
      address = u.scheme ++ "://" ++ u.printUser ++ host.print ++ printPort u.port
        ++ trimEndSlashes (Path.segments kept).print ++ "/oauth/token" ∧
      (Url.parse (trimEndSlashes url) = .ok { u with path := .segments kept } ∧
        (EndsVisibly (trimEndSlashes url).toList →
          trimEndSlashes (Path.segments kept).print = trimEndSlashes u.path.print)) ∧
      (Url.parse address
          = .ok { u with host := some host, path := .segments (tokenSegments kept) } ∨
        Url.parse address = .error .badDomain ∧ host.IsCoded) := by
  obtain ⟨login, segments, hu⟩ := isSettled_of_parse hparse hweb hquery hfragment
  obtain ⟨kept, hkept, hends⟩ := parse_trimEndSlashes hparse hweb hu.pathIs hquery hfragment
  obtain ⟨login', kept', hu'⟩ := isSettled_of_parse hkept hweb hquery hfragment
  obtain rfl : kept = kept' := Path.segments.inj hu'.pathIs
  obtain rfl : login = login' := Option.some.inj (hu.hostIs.symm.trans hu'.hostIs)
  obtain ⟨host, hitself, hzone, haddress, hread⟩ := tokenUrl_parts hkept hu' htoken
  refine ⟨login, host, kept, hu.hostIs, hitself, hzone, haddress, ⟨hkept, fun hvisible => ?_⟩,
    hread⟩
  refine String.toList_inj.1 ?_
  rw [hu.pathIs, toList_trimEndSlashes_segments hu'.steps, toList_trimEndSlashes_segments hu.steps,
    hends hvisible]

/-- A zone of a server with a user, a port and a path of its own. -/
theorem token_address_parts_of_zone :
    let url := "https://ops:pw@login.example.com:8443/uaa/"
    let address := "https://ops:pw@zone1.login.example.com:8443/uaa/oauth/token"
    let u : Url := ⟨"https", "ops", "pw", some (.name "login.example.com"), some 8443,
      .segments ["uaa", ""], none, none⟩
    Url.parse url = .ok u ∧ (Login.new url).tokenUrl "zone1" = .ok address ∧
    ∃ host, IsZoneHost (.name "login.example.com") "zone1" host ∧
      address = "https" ++ "://" ++ u.printUser ++ host.print ++ printPort u.port
        ++ trimEndSlashes u.path.print ++ "/oauth/token" := by
  intro url address u
  have hparse : Url.parse url = .ok u := ok_of_toOption (by decide +kernel)
  have htoken : (Login.new url).tokenUrl "zone1" = .ok address :=
    ok_of_toOption (by decide +kernel)
  have hends : (trimEndSlashes url).toList.getLast? = some 'a' := by decide +kernel
  obtain ⟨login, host, kept, hlogin, -, hzone, haddress, ⟨-, hpath⟩, -⟩ :=
    token_address_parts hparse (.inr rfl) rfl rfl htoken
  obtain rfl := Option.some.inj hlogin
  refine ⟨hparse, htoken, host, hzone (by decide), ?_⟩
  rw [← hpath fun c hc => by
    rw [hends] at hc
    rw [← Option.some.inj hc]
    decide]
  exact haddress

/-- A colon behind a subdomain puts another host into the place of the login server's, and the
client's secret goes there. -/
theorem token_address_elsewhere :
    Url.parse "http://login.test"
        = .ok ⟨"http", "", "", some (.name "login.test"), none, .segments [""], none, none⟩ ∧
      (Login.new "http://login.test").tokenUrl "evil.test:"
        = .ok "http://evil.test/oauth/token" ∧
      Url.parse "http://evil.test/oauth/token"
        = .ok ⟨"http", "", "", some (.name "evil.test"), none, .segments ["oauth", "token"], none,
            none⟩ ∧
      ¬∃ front, "evil.test" = front ++ "." ++ "login.test" := by
  refine ⟨ok_of_toOption (by decide +kernel), ok_of_toOption (by decide +kernel),
    ok_of_toOption (by decide +kernel), ?_⟩
  rintro ⟨front, h⟩
  have hlength := congrArg String.length h
  rw [String.length_append, String.length_append] at hlength
  have hlogin : "login.test".length = 10 := by decide
  have hevil : "evil.test".length = 9 := by decide
  omega

end Login

end UaaAdmin
