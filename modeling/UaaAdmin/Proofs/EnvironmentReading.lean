import UaaAdmin.Config.Environment

/-!
# What an environment says

A configuration follows an environment (`Follows`) if it has what the text of each variable says.
Three kinds of text are not taken as they are: words for truth values, the digits of a timeout
(`SpellsNumber`), and certificates on one line (`Unfolds`). What these say is told here by the
characters alone, whatever reads them.

The variable for the validation of certificates and that for the timeout are read strictly, the two
for logging are not. The payoff is `environment_reading`: which environments give no configuration
and why, and that otherwise the configuration is the one that follows the environment.
-/

namespace UaaAdmin

/-! ## Numbers -/

/-- Some characters spell a number that fits in 64 bits: they are its decimal digits, at least one,
with a plus sign in front or none. -/
def SpellsNumber (cs : List Char) (n : Nat) : Prop :=
  ∃ ds, (cs = ds ∨ cs = '+' :: ds) ∧ ds ≠ [] ∧ (∀ d ∈ ds, d.isDigit = true) ∧
    n = Nat.ofDigitChars 10 ds 0 ∧ n ≤ Nat.pow 2 64 - 1

namespace Text.Unsigned

/-- Further digits make a number no smaller. -/
theorem le_ofDigitChars (n : Nat) (cs : List Char) : n ≤ Nat.ofDigitChars 10 cs n := by
  induction cs generalizing n with
  | nil => exact Nat.le_refl n
  | cons c cs ih =>
    rw [Nat.ofDigitChars_cons]
    have hnext := ih (10 * n + (c.toNat - '0'.toNat))
    omega

/-- Digits are read as the number that they spell, as long as that stays in range. -/
theorem digitsFrom_eq_ok_iff {n m : Nat} {cs : List Char} (hn : n < bound) :
    digitsFrom n cs = .ok m ↔
      (∀ c ∈ cs, c.isDigit = true) ∧ m = Nat.ofDigitChars 10 cs n ∧ m < bound := by
  induction cs generalizing n with
  | nil =>
    constructor
    · intro h
      obtain rfl := Except.ok.inj h
      exact ⟨by simp, rfl, hn⟩
    · rintro ⟨-, rfl, -⟩
      rfl
  | cons c cs ih =>
    rw [List.forall_mem_cons, Nat.ofDigitChars_cons, Nat.mul_comm 10 n, digitsFrom]
    by_cases hc : c.isDigit = true
    · rw [hc, if_neg (by simp)]
      dsimp only
      by_cases hnext : n * 10 + (c.toNat - 0x30) < bound
      · rw [if_pos hnext, ih hnext, and_iff_right rfl]
        rfl
      · -- The number is too large already, and the digits to come make it no smaller.
        rw [if_neg hnext]
        refine iff_of_false (by simp) ?_
        rintro ⟨-, rfl, hlt⟩
        exact hnext (Nat.lt_of_le_of_lt (le_ofDigitChars _ cs) hlt)
    · rw [if_pos (by simp [hc])]
      exact iff_of_false (by simp) fun h => hc h.1.1

/-- From the beginning, a number is read if it has 64 bits at most. -/
theorem digitsFrom_zero_iff {cs : List Char} {n : Nat} : digitsFrom 0 cs = .ok n ↔
    (∀ c ∈ cs, c.isDigit = true) ∧ n = Nat.ofDigitChars 10 cs 0 ∧ n ≤ Nat.pow 2 64 - 1 := by
  have hbound (m : Nat) : m < bound ↔ m ≤ Nat.pow 2 64 - 1 := Nat.lt_iff_le_pred (by decide)
  rw [digitsFrom_eq_ok_iff (by decide), hbound]

/-- A number is read from what spells it. -/
theorem read_eq_ok_iff {cs : List Char} {n : Nat} : read cs = .ok n ↔ SpellsNumber cs n := by
  have hplus (ds : List Char) : ¬∀ d ∈ '+' :: ds, d.isDigit = true := by
    intro hdigits
    exact absurd (hdigits '+' List.mem_cons_self) (by decide)
  unfold read
  -- Nothing, a plus sign alone, one in front of something, and none in front.
  split
  case h_1 =>
    refine iff_of_false (by simp) ?_
    rintro ⟨ds, rfl | h, hne, -⟩
    · exact hne rfl
    · exact absurd h (by simp)
  case h_2 =>
    refine iff_of_false (by simp) ?_
    rintro ⟨ds, rfl | h, hne, hdigits, -⟩
    · exact hplus [] hdigits
    · exact hne (List.cons.inj h).2.symm
  case h_3 ds hne =>
    rw [digitsFrom_zero_iff]
    constructor
    · intro h
      exact ⟨ds, .inr rfl, hne, h⟩
    · rintro ⟨ds', rfl | h, -, hdigits⟩
      · exact absurd hdigits.1 (hplus ds)
      · obtain ⟨-, rfl⟩ := List.cons.inj h
        exact hdigits
  case h_4 hnil _ hsign =>
    rw [digitsFrom_zero_iff]
    constructor
    · intro h
      exact ⟨cs, .inl rfl, hnil, h⟩
    · rintro ⟨ds, rfl | h, -, hdigits⟩
      · exact hdigits
      · exact absurd h (hsign ds)

end Text.Unsigned

/-! ## Lines -/

/-- A text on one line is that of some lines: its line ends stand there as backslash and `n`, and
all else as it is. -/
inductive Unfolds : List Char → List Char → Prop
  | nil : Unfolds [] []
  | lineEnd {cs ds : List Char} (h : Unfolds cs ds) : Unfolds ('\\' :: 'n' :: cs) ('\n' :: ds)
  | letter {c : Char} {cs ds : List Char} (hc : ¬['\\', 'n'] <+: c :: cs) (h : Unfolds cs ds) :
    Unfolds (c :: cs) (c :: ds)

/-- A backslash that no `n` follows stands for itself. -/
theorem unfoldFrom_true {cs : List Char} (h : ¬['n'] <+: cs) :
    unfoldFrom true cs = '\\' :: unfoldFrom false cs := by
  rcases cs with _ | ⟨c, cs⟩
  · rfl
  · have hc : c ≠ 'n' := by
      rintro rfl
      exact h (List.cons_prefix_cons.mpr ⟨rfl, List.nil_prefix⟩)
    by_cases hslash : c = '\\'
    · subst hslash
      rfl
    · simp [unfoldFrom, hc, hslash]

/-- What does not begin an escaped line end stands for itself. -/
theorem unfoldFrom_letter {c : Char} {cs : List Char} (h : ¬['\\', 'n'] <+: c :: cs) :
    unfoldFrom false (c :: cs) = c :: unfoldFrom false cs := by
  rw [unfoldFrom, if_neg (by simp)]
  by_cases hslash : c = '\\'
  · subst hslash
    have hcs : ¬['n'] <+: cs := fun hcs => h (List.cons_prefix_cons.mpr ⟨rfl, hcs⟩)
    exact unfoldFrom_true hcs
  · simp [hslash]

theorem unfolds_unfoldFrom (cs : List Char) : Unfolds cs (unfoldFrom false cs) := by
  match cs with
  | [] => exact .nil
  | c :: cs =>
    by_cases hline : ['\\', 'n'] <+: c :: cs
    · -- Both characters are taken at once, so that the induction is on the length.
      obtain ⟨rest, hrest⟩ := hline
      obtain ⟨rfl, rfl⟩ := List.cons.inj hrest
      exact .lineEnd (unfolds_unfoldFrom rest)
    · rw [unfoldFrom_letter hline]
      exact .letter hline (unfolds_unfoldFrom cs)
termination_by cs.length

/-- A text is unfolded in one way only. -/
theorem unfolds_iff {cs ds : List Char} : Unfolds cs ds ↔ ds = unfoldFrom false cs := by
  constructor
  · intro h
    induction h with
    | nil => rfl
    | lineEnd _ ih =>
      rw [ih]
      rfl
    | letter hc _ ih => rw [unfoldFrom_letter hc, ih]
  · rintro rfl
    exact unfolds_unfoldFrom cs

/-! ## The variables -/

/-- The text of a variable, of which an unset one has none. -/
def Environment.text (env : Environment) (name : String) : String := (env name).getD ""

/-- A text says yes, with blanks around it or none and in capitals or not. -/
def SaysTrue (text : String) : Prop :=
  Text.toLower (Text.trim text) ∈ ["1", "t", "true", "yes", "on"]

/-- A text says no, with blanks around it or none and in capitals or not. -/
def SaysFalse (text : String) : Prop :=
  Text.toLower (Text.trim text) ∈ ["0", "f", "false", "no", "off"]

namespace Environment

/-- The validation of certificates is neither switched on nor off. -/
def HasBadSwitch (env : Environment) : Prop :=
  env.text "UAA_SKIP_SSL_VALIDATION" ≠ "" ∧ ¬SaysTrue (env.text "UAA_SKIP_SSL_VALIDATION") ∧
    ¬SaysFalse (env.text "UAA_SKIP_SSL_VALIDATION")

/-- The timeout is no number. -/
def HasBadTimeout (env : Environment) : Prop :=
  env.text "UAA_DIAL_TIMEOUT" ≠ "" ∧
    ∀ n, ¬SpellsNumber (Text.trim (env.text "UAA_DIAL_TIMEOUT")).toList n

/-- An empty variable has no value. -/
theorem value?_eq (env : Environment) (v : Variable) :
    env.value? v = if env.text v.name = "" then none else some (env.text v.name) := by
  unfold value? text
  rcases env v.name with _ | text
  · rfl
  · by_cases hempty : text = "" <;> simp [Option.filter, hempty]

/-- The text of a variable is that of its value, or empty. -/
theorem getD_value? (env : Environment) (v : Variable) :
    (env.value? v).getD "" = env.text v.name := by
  rw [value?_eq]
  by_cases hempty : env.text v.name = ""
  · rw [if_pos hempty, hempty]
    rfl
  · rw [if_neg hempty]
    rfl

end Environment

/-! ## Words -/

/-- A text is read as true exactly if it says so. -/
theorem truth?_eq_true_iff {text : String} : truth? text = some true ↔ SaysTrue text := by
  show truth? text = some true ↔ wordOf text ∈ trueWords
  simp only [truth?, List.contains_iff_mem]
  by_cases hyes : wordOf text ∈ trueWords
  · rw [if_pos hyes]
    exact iff_of_true rfl hyes
  · rw [if_neg hyes]
    refine iff_of_false ?_ hyes
    by_cases hno : wordOf text ∈ falseWords <;> simp [hno]

/-- A text is read as false exactly if it says so. -/
theorem truth?_eq_false_iff {text : String} : truth? text = some false ↔ SaysFalse text := by
  have hapart : ∀ word ∈ trueWords, word ∉ falseWords := by decide
  show truth? text = some false ↔ wordOf text ∈ falseWords
  simp only [truth?, List.contains_iff_mem]
  by_cases hyes : wordOf text ∈ trueWords
  · rw [if_pos hyes]
    exact iff_of_false (by simp) (hapart _ hyes)
  · rw [if_neg hyes]
    by_cases hno : wordOf text ∈ falseWords <;> simp [hno]

/-- An empty text says nothing. -/
theorem not_saysTrue_empty : ¬SaysTrue "" := by
  unfold SaysTrue
  decide +kernel

/-! ## Reading the variables -/

section

variable {env : Environment}

/-- A switch that is no truth value is reported, trimmed and in small letters. -/
theorem skipSslValidationOf_of_bad (h : env.HasBadSwitch) : skipSslValidationOf env
    = .error (.notBoolean (Text.toLower (Text.trim (env.text "UAA_SKIP_SSL_VALIDATION")))) := by
  obtain ⟨hne, hyes, hno⟩ := h
  unfold skipSslValidationOf
  rw [Environment.value?_eq, Variable.name, if_neg hne]
  dsimp only
  rcases htruth : truth? (env.text "UAA_SKIP_SSL_VALIDATION") with _ | _ | _
  · rfl
  · exact absurd (truth?_eq_false_iff.mp htruth) hno
  · exact absurd (truth?_eq_true_iff.mp htruth) hyes

/-- A good switch is on if it is not set or says so. -/
theorem exists_skipSslValidationOf (h : ¬env.HasBadSwitch) :
    ∃ b, skipSslValidationOf env = .ok b ∧ (b = true ↔ env.text "UAA_SKIP_SSL_VALIDATION" = "" ∨
      SaysTrue (env.text "UAA_SKIP_SSL_VALIDATION")) := by
  unfold skipSslValidationOf
  rw [Environment.value?_eq, Variable.name]
  by_cases hempty : env.text "UAA_SKIP_SSL_VALIDATION" = ""
  · rw [if_pos hempty]
    exact ⟨true, rfl, iff_of_true rfl (.inl hempty)⟩
  · rw [if_neg hempty, or_iff_right hempty, ← truth?_eq_true_iff]
    dsimp only
    rcases htruth : truth? (env.text "UAA_SKIP_SSL_VALIDATION") with _ | b
    · refine absurd ⟨hempty, fun hyes => ?_, fun hno => ?_⟩ h
      · exact absurd (htruth.symm.trans (truth?_eq_true_iff.mpr hyes)) (by simp)
      · exact absurd (htruth.symm.trans (truth?_eq_false_iff.mpr hno)) (by simp)
    · exact ⟨b, rfl, Option.some_inj.symm⟩

/-- A timeout that is no number is reported. -/
theorem dialTimeoutOf_of_bad (h : env.HasBadTimeout) :
    ∃ why, dialTimeoutOf env = .error (.badTimeout why) := by
  obtain ⟨hne, hnumber⟩ := h
  unfold dialTimeoutOf
  rw [Environment.value?_eq, Variable.name, if_neg hne]
  dsimp only
  rcases hread : Text.Unsigned.read (Text.trim (env.text "UAA_DIAL_TIMEOUT")).toList with why | n
  · exact ⟨why, rfl⟩
  · exact absurd (Text.Unsigned.read_eq_ok_iff.mp hread) (hnumber n)

/-- A good timeout is the number that it spells, if it is set. -/
theorem exists_dialTimeoutOf (h : ¬env.HasBadTimeout) :
    ∃ timeout, dialTimeoutOf env = .ok timeout ∧ ∀ n, timeout = some n ↔
      env.text "UAA_DIAL_TIMEOUT" ≠ "" ∧
        SpellsNumber (Text.trim (env.text "UAA_DIAL_TIMEOUT")).toList n := by
  unfold dialTimeoutOf
  rw [Environment.value?_eq, Variable.name]
  by_cases hempty : env.text "UAA_DIAL_TIMEOUT" = ""
  · rw [if_pos hempty]
    exact ⟨none, rfl, fun n => iff_of_false (by simp) fun hn => hn.1 hempty⟩
  · rw [if_neg hempty]
    dsimp only
    rcases hread : Text.Unsigned.read (Text.trim (env.text "UAA_DIAL_TIMEOUT")).toList
      with why | n
    · refine absurd ⟨hempty, fun n hn => ?_⟩ h
      exact absurd (hread.symm.trans (Text.Unsigned.read_eq_ok_iff.mpr hn)) (by simp)
    · refine ⟨some n, rfl, fun m => ?_⟩
      rw [and_iff_right hempty, ← Text.Unsigned.read_eq_ok_iff, hread]
      simp

theorem caCert_eq_none_iff :
    (env.value? .caCert).map unfoldLines = none ↔ env.text "UAA_CA_CERT" = "" := by
  rw [Environment.value?_eq, Variable.name, Option.map_eq_none_iff]
  by_cases hempty : env.text "UAA_CA_CERT" = "" <;> simp [hempty]

theorem unfolds_caCert {cert : String} (h : (env.value? .caCert).map unfoldLines = some cert) :
    Unfolds (env.text "UAA_CA_CERT").toList cert.toList := by
  obtain ⟨text, htext, rfl⟩ := Option.map_eq_some_iff.mp h
  have hget := Environment.getD_value? env .caCert
  rw [htext] at hget
  rw [unfolds_iff, unfoldLines, String.toList_ofList]
  exact congrArg (fun s => unfoldFrom false s.toList) hget

theorem debug_logConfigOf : (logConfigOf env).debug = true ↔ SaysTrue (env.text "UAA_DEBUG") := by
  unfold logConfigOf
  rw [Environment.value?_eq, Variable.name]
  by_cases hempty : env.text "UAA_DEBUG" = ""
  · rw [if_pos hempty, hempty]
    exact iff_of_false (by simp) not_saysTrue_empty
  · rw [if_neg hempty, Option.bind_some, ← truth?_eq_true_iff]
    rcases truth? (env.text "UAA_DEBUG") with _ | b <;> simp

theorem trace_logConfigOf : (logConfigOf env).trace = true ↔
    env.text "UAA_TRACE" ≠ "" ∧ ¬SaysFalse (env.text "UAA_TRACE") := by
  unfold logConfigOf
  dsimp only
  rw [Environment.value?_eq, Variable.name]
  by_cases hempty : env.text "UAA_TRACE" = ""
  · rw [if_pos hempty]
    exact iff_of_false (by simp) fun h => h.1 hempty
  · rw [if_neg hempty, ne_eq, and_iff_right hempty, ← truth?_eq_false_iff]
    rw [Option.map_some, Option.getD_some]
    rcases truth? (env.text "UAA_TRACE") with _ | _ | _ <;> simp

end

/-! ## Configurations -/

namespace Config

/-- A configuration has what the variables say. -/
structure Follows (config : Config) (env : Environment) : Prop where
  loginEndpoint : config.loginEndpoint = env.text "UAA_LOGIN_URL"
  authEndpoint : config.authEndpoint = env.text "UAA_AUTH_URL"
  clientId : config.clientId = env.text "UAA_CLIENT_ID"
  clientSecret : config.clientSecret = env.text "UAA_CLIENT_SECRET"
  noCert : config.caCert = none ↔ env.text "UAA_CA_CERT" = ""
  caCert : ∀ cert, config.caCert = some cert →
    Unfolds (env.text "UAA_CA_CERT").toList cert.toList
  skipSslValidation : config.skipSslValidation = true ↔
    env.text "UAA_SKIP_SSL_VALIDATION" = "" ∨ SaysTrue (env.text "UAA_SKIP_SSL_VALIDATION")
  dialTimeout : ∀ n, config.dialTimeout = some n ↔ env.text "UAA_DIAL_TIMEOUT" ≠ "" ∧
    SpellsNumber (Text.trim (env.text "UAA_DIAL_TIMEOUT")).toList n
  debug : config.log.debug = true ↔ SaysTrue (env.text "UAA_DEBUG")
  trace : config.log.trace = true ↔
    env.text "UAA_TRACE" ≠ "" ∧ ¬SaysFalse (env.text "UAA_TRACE")
  format : config.log.format = (env "LOG_FORMAT").getD "pretty"

variable {env : Environment} {config config' : Config}

/-- No two configurations follow one environment. -/
theorem Follows.unique (h : config.Follows env) (h' : config'.Follows env) : config = config' := by
  have hcert : config.caCert = config'.caCert := by
    rcases hc : config.caCert with _ | cert
    · exact (h'.noCert.mpr (h.noCert.mp hc)).symm
    rcases hc' : config'.caCert with _ | cert'
    · rw [h.noCert.mpr (h'.noCert.mp hc')] at hc
      exact absurd hc (by simp)
    have hlist := unfolds_iff.mp (h.caCert cert hc)
    rw [← unfolds_iff.mp (h'.caCert cert' hc')] at hlist
    exact congrArg some (String.toList_inj.mp hlist)
  have hskip := Bool.eq_iff_iff.mpr (h.skipSslValidation.trans h'.skipSslValidation.symm)
  have htimeout := Option.ext fun n => (h.dialTimeout n).trans (h'.dialTimeout n).symm
  have hdebug := Bool.eq_iff_iff.mpr (h.debug.trans h'.debug.symm)
  have htrace := Bool.eq_iff_iff.mpr (h.trace.trans h'.trace.symm)
  obtain ⟨_, _, _, _, _, _, _, ⟨_, _, _⟩⟩ := config
  obtain ⟨_, _, _, _, _, _, _, ⟨_, _, _⟩⟩ := config'
  rw [Config.mk.injEq, LogConfig.mk.injEq]
  exact ⟨h.loginEndpoint.trans h'.loginEndpoint.symm, h.authEndpoint.trans h'.authEndpoint.symm,
    h.clientId.trans h'.clientId.symm, h.clientSecret.trans h'.clientSecret.symm, hcert, hskip,
    htimeout, hdebug, htrace, h.format.trans h'.format.symm⟩

theorem ofEnvironment_of_badSwitch (h : env.HasBadSwitch) : ofEnvironment env
    = .error (.notBoolean (Text.toLower (Text.trim (env.text "UAA_SKIP_SSL_VALIDATION")))) := by
  unfold ofEnvironment
  rw [skipSslValidationOf_of_bad h]
  rfl

theorem ofEnvironment_of_badTimeout (hswitch : ¬env.HasBadSwitch) (h : env.HasBadTimeout) :
    ∃ why, ofEnvironment env = .error (.badTimeout why) := by
  obtain ⟨skip, hskip, -⟩ := exists_skipSslValidationOf hswitch
  obtain ⟨why, htimeout⟩ := dialTimeoutOf_of_bad h
  unfold ofEnvironment
  rw [hskip, htimeout]
  exact ⟨why, rfl⟩

/-- A switch and a timeout are all that is needed. -/
theorem exists_ofEnvironment (hswitch : ¬env.HasBadSwitch) (htimeout : ¬env.HasBadTimeout) :
    ∃ config, ofEnvironment env = .ok config ∧ config.Follows env := by
  obtain ⟨skip, hskip, hskipIff⟩ := exists_skipSslValidationOf hswitch
  obtain ⟨timeout, htimeout, htimeoutIff⟩ := exists_dialTimeoutOf htimeout
  unfold ofEnvironment
  rw [hskip, htimeout]
  refine ⟨_, rfl, ?_⟩
  constructor
  case loginEndpoint => exact Environment.getD_value? env .loginUrl
  case authEndpoint => exact Environment.getD_value? env .authUrl
  case clientId => exact Environment.getD_value? env .clientId
  case clientSecret => exact Environment.getD_value? env .clientSecret
  case noCert => exact caCert_eq_none_iff
  case caCert => exact fun cert hcert => unfolds_caCert hcert
  case skipSslValidation => exact hskipIff
  case dialTimeout => exact htimeoutIff
  case debug => exact debug_logConfigOf
  case trace => exact trace_logConfigOf
  case format => rfl

/-- There is a configuration exactly if switch and timeout are good, and then it follows the
environment. -/
theorem ofEnvironment_eq_ok_iff : ofEnvironment env = .ok config ↔
    ¬env.HasBadSwitch ∧ ¬env.HasBadTimeout ∧ config.Follows env := by
  by_cases hswitch : env.HasBadSwitch
  · rw [ofEnvironment_of_badSwitch hswitch]
    exact iff_of_false (by simp) fun h => h.1 hswitch
  by_cases htimeout : env.HasBadTimeout
  · obtain ⟨why, hwhy⟩ := ofEnvironment_of_badTimeout hswitch htimeout
    rw [hwhy]
    exact iff_of_false (by simp) fun h => h.2.1 htimeout
  obtain ⟨found, hfound, hfollows⟩ := exists_ofEnvironment hswitch htimeout
  rw [hfound, Except.ok.injEq, and_iff_right hswitch, and_iff_right htimeout]
  constructor
  · rintro rfl
    exact hfollows
  · exact hfollows.unique

/-- An environment gives no configuration exactly if switch or timeout is bad. -/
theorem exists_error_iff :
    (∃ why, ofEnvironment env = .error why) ↔ env.HasBadSwitch ∨ env.HasBadTimeout := by
  constructor
  · rintro ⟨why, hwhy⟩
    by_cases hswitch : env.HasBadSwitch
    · exact .inl hswitch
    by_cases htimeout : env.HasBadTimeout
    · exact .inr htimeout
    obtain ⟨config, hconfig, -⟩ := exists_ofEnvironment hswitch htimeout
    exact absurd (hwhy.symm.trans hconfig) (by simp)
  · intro hbad
    by_cases hswitch : env.HasBadSwitch
    · exact ⟨_, ofEnvironment_of_badSwitch hswitch⟩
    · obtain ⟨why, hwhy⟩ := ofEnvironment_of_badTimeout hswitch (hbad.resolve_left hswitch)
      exact ⟨_, hwhy⟩

/-- Only the texts of the variables count, but for the format of log lines. -/
theorem ofEnvironment_congr {env' : Environment}
    (htext : ∀ v : Variable, env.text v.name = env'.text v.name)
    (hformat : env "LOG_FORMAT" = env' "LOG_FORMAT") : ofEnvironment env = ofEnvironment env' := by
  have hvalue : env.value? = env'.value? := by
    funext v
    rw [Environment.value?_eq, Environment.value?_eq, htext v]
  unfold ofEnvironment skipSslValidationOf dialTimeoutOf logConfigOf logFormatName
  rw [hvalue, hformat]

end Config

/-- An environment gives no configuration exactly if the switch for the validation of certificates
is no word for a truth value, which is reported first, or the timeout is no number. Any other gives
the one configuration that has what the variables say. A variable that is empty counts as one that
is not set, but for the format of log lines. -/
theorem environment_reading (env : Environment) :
    ((∃ why, Config.ofEnvironment env = .error why) ↔ env.HasBadSwitch ∨ env.HasBadTimeout) ∧
    (env.HasBadSwitch → Config.ofEnvironment env
      = .error (.notBoolean (Text.toLower (Text.trim (env.text "UAA_SKIP_SSL_VALIDATION"))))) ∧
    (¬env.HasBadSwitch → env.HasBadTimeout →
      ∃ why, Config.ofEnvironment env = .error (.badTimeout why)) ∧
    (∀ config, Config.ofEnvironment env = .ok config ↔
      ¬env.HasBadSwitch ∧ ¬env.HasBadTimeout ∧ config.Follows env) ∧
    ∀ env' : Environment, (∀ v : Variable, env.text v.name = env'.text v.name) →
      env "LOG_FORMAT" = env' "LOG_FORMAT" →
        Config.ofEnvironment env = Config.ofEnvironment env' :=
  ⟨Config.exists_error_iff, Config.ofEnvironment_of_badSwitch, Config.ofEnvironment_of_badTimeout,
    fun _ => Config.ofEnvironment_eq_ok_iff, fun _ => Config.ofEnvironment_congr⟩

end UaaAdmin
