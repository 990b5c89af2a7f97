import UaaAdmin.Proofs.PathSegments

/-!
# User, host and port

What stands between the two slashes and the path of an address of the web. What is read of it is
settled (`authority?_spec`), and what is written is read as itself, as far as the host is
(`authority?_print`): no part holds a character that another part ends at. Blanks at its end are
refused (`visible_of_authority?`).
-/

namespace UaaAdmin

namespace Url

open Text

/-! ## Characters -/

/-- The character ends no part that stands in front of the path, and no address. -/
structure IsInner (c : Char) : Prop where
  visible : 0x20 < c.toNat
  noFragment : c ≠ '#'
  noQuery : c ≠ '?'
  noSlash : isSlash true c = false

instance (c : Char) : Decidable (IsInner c) :=
  decidable_of_iff (0x20 < c.toNat ∧ c ≠ '#' ∧ c ≠ '?' ∧ isSlash true c = false)
    ⟨fun h => ⟨h.1, h.2.1, h.2.2.1, h.2.2.2⟩, fun h => ⟨h.1, h.2, h.3, h.4⟩⟩

/-- Only the two slashes end a part of a path. -/
theorem isSlash_eq_false {c : Char} (hslash : c ≠ '/') (hback : c ≠ '\\') :
    isSlash true c = false := by
  simp [isSlash, hslash, hback]

/-- What is kept in a user part ends no part. -/
theorem isInner_of_keptInUser {c : Char} (h : keptInUser c = true) : IsInner c :=
  ⟨(keptInUser_bounds h).1, ne_of_kept h (by decide +kernel), ne_of_kept h (by decide +kernel),
    isSlash_eq_false (ne_of_kept h (by decide +kernel)) (ne_of_kept h (by decide +kernel))⟩

/-- What may stand in a name ends no part. -/
theorem isInner_of_settled {c : Char} (h : Domain.IsSettled c) : IsInner c := by
  have hallowed : (!Domain.isForbidden c) = true := by rw [h.allowed]; rfl
  have hne {d : Char} (hd : Domain.isForbidden d = true) : c ≠ d := by
    rintro rfl
    rw [hd] at hallowed
    cases hallowed
  refine ⟨?_, hne (by decide +kernel), hne (by decide +kernel),
    isSlash_eq_false (hne (by decide +kernel)) (hne (by decide +kernel))⟩
  have hc := h.allowed
  simp only [Domain.isForbidden, Bool.or_eq_false_iff, decide_eq_false_iff_not] at hc
  omega

/-- A digit ends no part. -/
theorem isInner_of_digit {c : Char} (h : (Percent.digit? c).isSome) : IsInner c := by
  have hne {d : Char} (hd : Percent.digit? d = none) : c ≠ d := by
    rintro rfl
    rw [hd] at h
    cases h
  refine ⟨?_, hne (by decide), hne (by decide),
    isSlash_eq_false (hne (by decide)) (hne (by decide))⟩
  by_contra hlow
  rw [(standsAlone_of_blank (Nat.le_of_not_lt hlow)).noDigit] at h
  cases h

/-- Digits are plain, those of base 16 as well. -/
theorem plain_of_digit {c : Char} (h : (Percent.digit? c).isSome) : c.toNat < 0x80 := by
  by_contra hhigh
  have hmore (d : Char) (hd : d.toNat < 0x80) : ¬c ≤ d := fun hle => by
    have hle : c.toNat ≤ d.toNat := hle
    omega
  simp [Percent.digit?, hmore '9' (by decide), hmore 'F' (by decide), hmore 'f' (by decide)] at h

/-! ## Cutting -/

/-- A text is cut where the first character stands that is looked for. -/
theorem cutAt_append {p : Char → Bool} {cs ds : List Char} (hcs : ∀ c ∈ cs, p c = false)
    (hds : ∀ c, ds.head? = some c → p c = true) : cutAt p (cs ++ ds) = (cs, ds) := by
  have hstop : ds.takeWhile (!p ·) = [] ∧ ds.dropWhile (!p ·) = ds := by
    cases ds with
    | nil => exact ⟨rfl, rfl⟩
    | cons d ds =>
      have hd := hds d rfl
      simp [hd]
  have hpass : ∀ c ∈ cs, (!p c) = true := fun c hc => by rw [hcs c hc]; rfl
  rw [cutAt, List.takeWhile_append_of_pos hpass, List.dropWhile_append_of_pos hpass, hstop.1,
    hstop.2, List.append_nil]

/-- A text without such a character is not cut. -/
theorem cutAt_eq_self {p : Char → Bool} {cs : List Char} (h : ∀ c ∈ cs, p c = false) :
    cutAt p cs = (cs, []) := by
  have hcut : cutAt p (cs ++ []) = (cs, []) := cutAt_append h (by simp)
  rwa [List.append_nil] at hcut

/-- A text is cut off at its first mark, which is dropped. -/
theorem cutOff_append {mark : Char} {cs : List Char} (h : mark ∉ cs) (ds : List Char) :
    cutOff mark (cs ++ mark :: ds) = (cs, some ds) := by
  have hcs : ∀ c ∈ cs, (c == mark) = false := fun c hc =>
    beq_false_of_ne fun heq => h (heq ▸ hc)
  rw [cutOff, cutAt_append hcs (by rintro _ ⟨⟩; exact beq_self_eq_true mark)]

/-- A text without the mark stays whole. -/
theorem cutOff_eq_self {mark : Char} {cs : List Char} (h : mark ∉ cs) :
    cutOff mark cs = (cs, none) := by
  have hcs : ∀ c ∈ cs, (c == mark) = false := fun c hc =>
    beq_false_of_ne fun heq => h (heq ▸ hc)
  rw [cutOff, cutAt_eq_self hcs]

/-- From the back, a text without an `@` is gone through to its front. -/
theorem takeWhile_reverse_eq {cs : List Char} (h : '@' ∉ cs) :
    cs.reverse.takeWhile (· ≠ '@') = cs.reverse :=
  List.takeWhile_eq_self_iff.2 fun _ hc =>
    decide_eq_true fun heq => h (heq ▸ List.mem_reverse.1 hc)

/-- Without an `@` there is no user part. -/
theorem cutUser_eq_self {cs : List Char} (h : '@' ∉ cs) : cutUser cs = (none, cs) := by
  rw [cutUser, takeWhile_reverse_eq h, List.reverse_reverse]
  exact if_pos rfl

/-- The user part goes as far as the last `@`. -/
theorem cutUser_append (user : List Char) {cs : List Char} (h : '@' ∉ cs) :
    cutUser (user ++ '@' :: cs) = (some user, cs) := by
  have hbehind : ((user ++ '@' :: cs).reverse.takeWhile (· ≠ '@')).reverse = cs := by
    rw [List.reverse_append, List.reverse_cons, List.append_assoc, List.takeWhile_append_of_pos]
    · simp
    · exact fun c hc => decide_eq_true fun heq => h (heq ▸ List.mem_reverse.1 hc)
  have hlength : (user ++ '@' :: cs).length = user.length + cs.length + 1 := by
    rw [List.length_append, List.length_cons, Nat.add_assoc]
  have hfront : user.length + cs.length + 1 - cs.length - 1 = user.length := by omega
  rw [cutUser, hbehind, hlength, if_neg (by omega), hfront, List.take_left' rfl]

/-- Without brackets a host ends at its first colon. -/
theorem cutPort_append {cs rest : List Char} (hcolon : ':' ∉ cs) (hbracket : '[' ∉ cs)
    (hrest : ∀ c, rest.head? = some c → c = ':') : cutPort false (cs ++ rest) = (cs, rest) := by
  induction cs with
  | nil =>
    cases rest with
    | nil => rfl
    | cons c rest =>
      obtain rfl := hrest c rfl
      rfl
  | cons c cs ih =>
    obtain ⟨hc, hcolon⟩ := List.ne_and_not_mem_of_not_mem_cons hcolon
    obtain ⟨hb, hbracket⟩ := List.ne_and_not_mem_of_not_mem_cons hbracket
    have ih := ih hcolon hbracket
    have hmark : (c == ':' && !false) = false := by simp [Ne.symm hc]
    have hinside : (if (c == '[') = true then true else if (c == ']') = true then false else false)
        = false := by simp [Ne.symm hb]
    rw [List.cons_append, cutPort, hmark, if_neg Bool.false_ne_true]
    dsimp only
    rw [hinside, ih]

/-- Between brackets a host goes on to the closing one. -/
theorem cutPort_append_close {cs rest : List Char} (h : ']' ∉ cs)
    (hrest : ∀ c, rest.head? = some c → c = ':') :
    cutPort true (cs ++ ']' :: rest) = (cs ++ [']'], rest) := by
  induction cs with
  | nil =>
    have hrest : cutPort false ([] ++ rest) = ([], rest) :=
      cutPort_append (by simp) (by simp) hrest
    rw [List.nil_append] at hrest
    have hstep : cutPort true (']' :: rest)
        = (']' :: (cutPort false rest).1, (cutPort false rest).2) := rfl
    rw [List.nil_append, hstep, hrest]
    rfl
  | cons c cs ih =>
    obtain ⟨hc, hcs⟩ := List.ne_and_not_mem_of_not_mem_cons h
    have hinside : (if (c == '[') = true then true else if (c == ']') = true then false else true)
        = true := by simp [Ne.symm hc]
    rw [List.cons_append, cutPort, Bool.not_true, Bool.and_false, if_neg Bool.false_ne_true]
    dsimp only
    rw [hinside, ih hcs]
    rfl

/-! ## The host -/

/-- A number of version 6 is written in square brackets. -/
theorem toList_print_ipv6 (ns : List Nat) :
    (Host.ipv6 ns).print.toList = '[' :: ((printIpv6 ns).toList ++ [']']) := by
  simp [Host.print]

/-- What is neither a colon nor a digit does not stand in a number of version 6. -/
theorem ne_of_mem_printIpv6 {ns : List Nat} {c d : Char} (h : c ∈ (printIpv6 ns).toList)
    (hcolon : d ≠ ':') (hdigit : Percent.digit? d = none) : c ≠ d := by
  rintro rfl
  rcases mem_printIpv6 h with rfl | h
  · exact hcolon rfl
  · rw [hdigit] at h
    cases h

/-- Nothing in a written host ends a part of the address, and no user part either. -/
theorem isInner_of_mem_host {host : Host} (h : host.IsProper) :
    ∀ c ∈ host.print.toList, IsInner c ∧ c ≠ '@' := by
  have hsettled {c : Char} (hc : Domain.IsSettled c) : IsInner c ∧ c ≠ '@' := by
    refine ⟨isInner_of_settled hc, ?_⟩
    rintro rfl
    exact absurd hc (by decide +kernel)
  cases host with
  | name text => exact fun c hc => hsettled (h.2.1 c hc)
  | ipv4 n => exact fun c hc => hsettled (settled_printIpv4 n c hc)
  | ipv6 ns =>
    rw [toList_print_ipv6]
    refine List.forall_mem_cons.2 ⟨by decide +kernel, List.forall_mem_append.2 ⟨fun c hc => ?_,
      List.forall_mem_singleton.2 (by decide +kernel)⟩⟩
    refine ⟨?_, ne_of_mem_printIpv6 hc (by decide) (by decide)⟩
    rcases mem_printIpv6 hc with rfl | hc
    · decide +kernel
    · exact isInner_of_digit hc

/-- No proper host is written as nothing. -/
theorem print_host_ne_nil {host : Host} (h : host.IsProper) : host.print.toList ≠ [] := by
  cases host with
  | name text =>
    rw [ne_eq, Host.print, String.toList_eq_nil_iff]
    exact h.1
  | ipv4 n => exact printIpv4_ne_nil n
  | ipv6 ns =>
    rw [toList_print_ipv6]
    exact List.cons_ne_nil _ _

/-- A host that is written ends where its port begins. -/
theorem cutPort_print {host : Host} (h : host.IsProper) {rest : List Char}
    (hrest : ∀ c, rest.head? = some c → c = ':') :
    cutPort false (host.print.toList ++ rest) = (host.print.toList, rest) := by
  cases host with
  | name text =>
    exact cutPort_append (not_mem_of_settled (by decide +kernel) h.2.1)
      (not_mem_of_settled (by decide +kernel) h.2.1) hrest
  | ipv4 n =>
    exact cutPort_append (not_mem_of_settled (by decide +kernel) (settled_printIpv4 n))
      (not_mem_of_settled (by decide +kernel) (settled_printIpv4 n)) hrest
  | ipv6 ns =>
    have hclose : ']' ∉ (printIpv6 ns).toList := fun hmem =>
      ne_of_mem_printIpv6 hmem (by decide) (by decide) rfl
    rw [toList_print_ipv6, List.cons_append, List.append_assoc]
    have hstep (ds : List Char) :
        cutPort false ('[' :: ds) = ('[' :: (cutPort true ds).1, (cutPort true ds).2) := rfl
    rw [hstep, List.singleton_append, cutPort_append_close hclose hrest]

/-! ## The port -/

/-- Written form of a port with its colon. -/
def printPort (port : Option Nat) : String :=
  (port.map fun n => ":" ++ toString n).getD ""

/-- A port is written in base 10 behind its colon. -/
theorem toList_printPort_some (n : Nat) :
    (printPort (some n)).toList = ':' :: Nat.toDigits 10 n := by
  simp [printPort]

/-- A written port has a colon and digits in it, and nothing else. -/
theorem mem_printPort {port : Option Nat} {c : Char} (h : c ∈ (printPort port).toList) :
    c = ':' ∨ (Percent.digit? c).isSome := by
  cases port with
  | none => cases h
  | some n =>
    rw [toList_printPort_some, List.mem_cons] at h
    exact h.imp_right (digit?_of_mem_toDigits (by decide) (by decide))

/-- What is written of a port begins with its colon. -/
theorem head?_printPort {port : Option Nat} :
    ∀ c, (printPort port).toList.head? = some c → c = ':' := by
  cases port with
  | none => exact fun c hc => by cases hc
  | some n =>
    rw [toList_printPort_some]
    exact fun c hc => (Option.some.inj hc).symm

/-- A port in range that is not the scheme's own is read as itself. -/
theorem port?_print {scheme : String} {port : Option Nat}
    (h : ∀ n, port = some n → n ≤ 65535 ∧ defaultPort? scheme ≠ some n) :
    port? scheme (printPort port).toList = .ok port := by
  cases port with
  | none => rfl
  | some n =>
    obtain ⟨hless, hdefault⟩ := h n rfl
    have hdigits : (Nat.toDigits 10 n).isEmpty = false :=
      List.isEmpty_eq_false_iff.2 Nat.toDigits_ne_nil
    rw [toList_printPort_some, port?, hdigits, if_neg Bool.false_ne_true,
      numberIn?_toDigits (by decide) (by decide)]
    dsimp only
    rw [if_neg (Nat.not_lt.2 hless), if_neg hdefault]

/-! ## The user -/

/-- A user part that is kept as it is need not be encoded. -/
theorem encodeText_keptInUser {s : String} (h : ∀ c ∈ s.toList, keptInUser c = true) :
    encodeText keptInUser s.toList = s := by
  rw [encodeText, Percent.encodeChars_kept fun c hc => ⟨(keptInUser_bounds (h c hc)).2, h c hc⟩,
    String.ofList_toList]

/-- Written form of a user part without its `@`. -/
def userText? (u : Url) : Option String :=
  if u.username = "" ∧ u.password = "" then none
  else some (u.username ++ (if u.password = "" then "" else ":" ++ u.password))

/-- What is written of the user is cut off again, whatever follows without an `@`. -/
theorem cutUser_print {u : Url} {cs : List Char} (h : '@' ∉ cs) :
    cutUser (u.printUser.toList ++ cs) = (u.userText?.map String.toList, cs) := by
  unfold printUser userText?
  by_cases hnone : u.username = "" ∧ u.password = ""
  · rw [if_pos (by simpa using hnone), if_pos hnone]
    exact cutUser_eq_self h
  · rw [if_neg (by simpa using hnone), if_neg hnone, String.toList_append, List.append_assoc]
    exact cutUser_append _ h

/-- The first colon of a user part stands between name and password. -/
theorem cutOff_userText? {u : Url} (h : ∀ c ∈ u.username.toList, keptInUser c = true) :
    ∃ secret, cutOff ':' ((u.userText?.map String.toList).getD []) = (u.username.toList, secret) ∧
      secret.getD [] = u.password.toList := by
  have hcolon : ':' ∉ u.username.toList := fun hmem =>
    ne_of_kept (h _ hmem) (d := ':') (by decide +kernel) rfl
  unfold userText?
  split
  · rename_i hnone
    rw [hnone.1, hnone.2]
    exact ⟨none, rfl, rfl⟩
  · by_cases hpassword : u.password = ""
    · rw [if_pos hpassword, hpassword]
      refine ⟨none, ?_, rfl⟩
      simpa using cutOff_eq_self hcolon
    · rw [if_neg hpassword]
      refine ⟨some u.password.toList, ?_, rfl⟩
      simpa using cutOff_append hcolon u.password.toList

/-! ## All of it -/

/-- What stands between the slashes and the path of an address. -/
def authorityText (u : Url) (host : Host) : List Char :=
  u.printUser.toList ++ (host.print.toList ++ (printPort u.port).toList)

/-- What is written of a user, a host and a port is read as itself, as far as the host is. -/
theorem authority?_print {u : Url} {host : Host} (hspecial : isSpecial u.scheme = true)
    (husername : ∀ c ∈ u.username.toList, keptInUser c = true)
    (hpassword : ∀ c ∈ u.password.toList, keptInUser c = true) (hproper : host.IsProper)
    (hport : ∀ n, u.port = some n → n ≤ 65535 ∧ defaultPort? u.scheme ≠ some n) (more : Bool) :
    authority? u.scheme (authorityText u host) more =
      (domainHost? host.print.toList).map fun h => ⟨u.username, u.password, h, u.port, []⟩ := by
  have hfilled : host.print.toList ≠ [] := print_host_ne_nil hproper
  have hat : '@' ∉ host.print.toList ++ (printPort u.port).toList := by
    rw [List.mem_append, not_or]
    refine ⟨fun hc => (isInner_of_mem_host hproper _ hc).2 rfl, fun hc => ?_⟩
    rcases mem_printPort hc with h | h <;> exact absurd h (by decide)
  have hback : ∀ c ∈ (printPort u.port).toList, (c == '\\') = false := by
    refine fun c hc => beq_false_of_ne ?_
    rintro rfl
    rcases mem_printPort hc with h | h <;> exact absurd h (by decide)
  obtain ⟨secret, hcut, hsecret⟩ := cutOff_userText? (u := u) husername
  unfold authority? authorityText
  simp only [hspecial, bind, Except.bind, pure, Except.pure, throw, throwThe, MonadExceptOf.throw,
    if_true, cutUser_print hat, hcut, hsecret, cutPort_print hproper head?_printPort,
    cutAt_eq_self hback, port?_print hport, encodeText_keptInUser husername,
    encodeText_keptInUser hpassword]
  have hrest : (host.print.toList ++ (printPort u.port).toList).isEmpty = false :=
    List.isEmpty_eq_false_iff.2 (List.append_ne_nil_of_left_ne_nil hfilled _)
  rw [hrest, List.isEmpty_eq_false_iff.2 hfilled, Bool.and_false, Bool.false_and, Bool.false_and,
    if_neg Bool.false_ne_true, if_neg Bool.false_ne_true]
  cases domainHost? host.print.toList <;> rfl

/-! ## What is read -/

/-- A port that is read is in range, and not the one of the scheme. -/
theorem port?_bounds {scheme : String} {cs : List Char} {port : Option Nat}
    (h : port? scheme cs = .ok port) :
    ∀ n, port = some n → n ≤ 65535 ∧ defaultPort? scheme ≠ some n := by
  unfold port? at h
  split at h
  · cases h
    rintro n ⟨⟩
  · split at h
    · cases h
      rintro n ⟨⟩
    · split at h
      · rename_i m hm
        split at h
        · cases h
        · rename_i hless
          cases h
          intro n hn
          split at hn
          · cases hn
          · rename_i hdefault
            cases hn
            exact ⟨Nat.le_of_not_lt hless, hdefault⟩
      · cases h

/-- What is read has a user part that is kept, a proper host, and a port in range that is not the
one of the scheme. -/
theorem authority?_spec {scheme : String} {cs : List Char} {more : Bool} {a : Authority}
    (hspecial : isSpecial scheme = true) (h : authority? scheme cs more = .ok a) :
    (∀ c ∈ a.username.toList, keptInUser c = true) ∧
      (∀ c ∈ a.password.toList, keptInUser c = true) ∧ a.host.IsProper ∧
      ∀ n, a.port = some n → n ≤ 65535 ∧ defaultPort? scheme ≠ some n := by
  unfold authority? at h
  simp only [hspecial, bind, Except.bind, pure, Except.pure, throw, throwThe,
    MonadExceptOf.throw, if_true] at h
  split at h
  · cases h
  split at h
  · cases h
  split at h
  · cases h
  rename_i host hhost
  split at h
  · cases h
  rename_i port hport
  cases h
  exact ⟨kept_of_mem_encodeUser _, kept_of_mem_encodeUser _, isProper_of_domainHost? hhost,
    port?_bounds hport⟩

/-- What follows an authority matters to refusals only. -/
theorem authority?_alone {scheme : String} {cs : List Char} {more : Bool} {a : Authority}
    (h : authority? scheme cs more = .ok a) : authority? scheme cs false = .ok a := by
  cases more with
  | false => exact h
  | true =>
    unfold authority? at h ⊢
    simp only [bind, Except.bind, pure, Except.pure, throw, throwThe, MonadExceptOf.throw,
      Bool.and_true, Bool.and_false, Bool.false_eq_true, if_false] at h ⊢
    split at h
    · cases h
    · exact h

/-- Behind the user part stands the end of the text. -/
theorem suffix_cutUser (cs : List Char) : (cutUser cs).2 <:+ cs := by
  unfold cutUser
  dsimp only
  split
  · exact List.suffix_rfl
  · exact List.reverse_prefix.1 (by rw [List.reverse_reverse]; exact List.takeWhile_prefix _)

/-- A host and what follows it, which begins with a colon. -/
theorem cutPort_spec (inside : Bool) (cs : List Char) :
    (cutPort inside cs).1 ++ (cutPort inside cs).2 = cs ∧
      ∀ c, (cutPort inside cs).2.head? = some c → c = ':' := by
  induction cs generalizing inside with
  | nil => exact ⟨rfl, fun c hc => by cases hc⟩
  | cons c cs ih =>
    rw [cutPort]
    split
    · rename_i hcolon
      rw [Bool.and_eq_true, beq_iff_eq] at hcolon
      exact ⟨rfl, fun d hd => (Option.some.inj hd).symm.trans hcolon.1⟩
    · exact ⟨congrArg (c :: ·) (ih _).1, (ih _).2⟩

/-- A port does not end in a blank. -/
theorem visible_of_port? {scheme : String} {cs : List Char} {c : Char} {port : Option Nat}
    (h : port? scheme (':' :: cs ++ [c]) = .ok port) : 0x20 < c.toNat := by
  rw [List.cons_append, port?, if_neg (by simp)] at h
  split at h
  · rename_i n hn
    exact (isInner_of_digit ((numberIn?_bounds hn).2 c (List.mem_append_right cs
      (List.mem_singleton_self c)))).visible
  · cases h

/-- No authority ends in a blank. -/
theorem visible_of_authority? {scheme : String} {cs : List Char} {c : Char} {more : Bool}
    {a : Authority} (hspecial : isSpecial scheme = true) (hback : '\\' ∉ cs ++ [c])
    (h : authority? scheme (cs ++ [c]) more = .ok a) : 0x20 < c.toNat := by
  have hsuffix := suffix_cutUser (cs ++ [c])
  unfold authority? at h
  simp only [hspecial, bind, Except.bind, pure, Except.pure, throw, throwThe,
    MonadExceptOf.throw, if_true, Bool.true_or, Bool.and_true] at h
  generalize cutUser (cs ++ [c]) = parts at h hsuffix
  obtain ⟨user, rest⟩ := parts
  dsimp only at h hsuffix
  obtain ⟨hparts, hcolon⟩ := cutPort_spec false rest
  generalize cutPort false rest = parts at h hparts hcolon
  obtain ⟨hostText, behind⟩ := parts
  dsimp only at h hparts hcolon
  subst hparts
  have hcut : cutAt (· == '\\') behind = (behind, []) := cutAt_eq_self fun d hd =>
    beq_false_of_ne fun heq =>
      hback (heq ▸ hsuffix.subset (List.mem_append_right hostText hd))
  rw [hcut] at h
  split at h
  · cases h
  split at h
  · cases h
  rename_i hfilled
  split at h
  · cases h
  rename_i host hhost
  split at h
  · cases h
  rename_i port hport
  obtain ⟨front, hfront⟩ := hsuffix
  have hne : hostText ≠ [] := by simpa using hfilled
  have hlast : (hostText ++ behind).getLast? = some c := by
    have hrest : hostText ++ behind ≠ [] := List.append_ne_nil_of_left_ne_nil hne behind
    rw [← List.getLast?_append_of_ne_nil front hrest, hfront, List.getLast?_concat]
  -- The last character is one of the port, if there is one, and else one of the host.
  cases behind with
  | nil =>
    rw [List.append_nil] at hlast
    obtain ⟨name, rfl⟩ := List.getLast?_eq_some_iff.1 hlast
    exact visible_of_domainHost? hhost
  | cons d digits =>
    obtain rfl := hcolon d rfl
    rw [List.getLast?_append_of_ne_nil _ (List.cons_ne_nil ':' digits)] at hlast
    obtain ⟨text, htext⟩ := List.getLast?_eq_some_iff.1 hlast
    rw [htext] at hport
    cases text with
    | nil =>
      rw [← (List.cons.inj htext).1]
      decide
    | cons e text =>
      obtain ⟨rfl, -⟩ := List.cons.inj htext
      exact visible_of_port? hport

end Url

end UaaAdmin
