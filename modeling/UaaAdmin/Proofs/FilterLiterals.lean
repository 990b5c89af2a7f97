import UaaAdmin.Proofs.JsonText
import UaaAdmin.Proofs.LookupAddresses

/-!
# Values in filters

A filter puts a value between two quotes as it is. As a text literal, what stands there denotes the
value only if all of its characters are plain (`ofText?_quoted_iff`): a quote ends the literal, a
backslash begins an escape, and a control character may not stand there. An escape never denotes as
many characters as it takes (`length_textLiteral?`), so that no value happens to denote itself.

The payoff is `filter_denotes_iff`, with which goes what a value can do: it can end the literal and
spell another comparison.
-/

namespace UaaAdmin

namespace Json

/-! ## What a text literal can denote -/

/-- What is pending of a surrogate pair counts as one character. -/
def pending (high : Option Nat) : Nat := if high.isSome then 1 else 0

theorem length_unpaired (high : Option Nat) : (unpaired high).length = pending high := by
  unfold unpaired pending
  split <;> rfl

/-- What is read of some characters is no longer than they are, but for what was pending. -/
theorem length_unescape_le {mode : Escape} {high : Option Nat} {cs out : List (Option Char)}
    (h : unescape mode high cs = some out) : out.length ≤ cs.length + pending high := by
  have hnone : pending none = 0 := rfl
  have hsome (n : Nat) : pending (some n) = 1 := rfl
  fun_induction unescape mode high cs generalizing out with
  | case1 high =>
    obtain rfl := Option.some.inj h
    rw [length_unpaired]
    exact Nat.le_add_left _ _
  | case2 | case7 | case8 | case14 => cases h
  | case3 high cs ih | case5 high cs ih =>
    have hle := ih h
    rw [List.length_cons]
    omega
  | case4 high cs c hc ih | case6 high cs c hc d hd ih =>
    obtain ⟨rest, hrest, rfl⟩ := Option.map_eq_some_iff.mp h
    have hle := ih hrest
    rw [List.length_append, List.length_append, length_unpaired, List.length_singleton,
      List.length_cons]
    omega
  | case9 high cs left unit c d hd unit' hleft =>
    rename_i ih
    have hle := ih h
    rw [List.length_cons]
    omega
  | case10 high cs left unit c d hd unit' hleft hhigh =>
    -- The first half of a pair is pending from here on.
    rename_i ih
    obtain ⟨rest, hrest, rfl⟩ := Option.map_eq_some_iff.mp h
    have hle := ih hrest
    rw [hsome] at hle
    rw [List.length_append, length_unpaired, List.length_cons]
    omega
  | case11 cs left unit c d hd unit' hleft hhigh hlow high
  | case12 cs left unit c d hd unit' hleft hhigh hlow =>
    rename_i ih
    obtain ⟨rest, hrest, rfl⟩ := Option.map_eq_some_iff.mp h
    have hle := ih hrest
    rw [List.length_cons, List.length_cons]
    omega
  | case13 high cs left unit c d hd unit' hleft hhigh hlow =>
    rename_i ih
    obtain ⟨rest, hrest, rfl⟩ := Option.map_eq_some_iff.mp h
    have hle := ih hrest
    rw [List.length_append, List.length_append, length_unpaired, List.length_singleton,
      List.length_cons]
    omega

/-- An escape is longer than what it stands for. -/
theorem length_unescape_lt {high : Option Nat} {cs out : List (Option Char)}
    (h : unescape .plain high cs = some out) (hescape : some '\\' ∈ cs) :
    out.length < cs.length + pending high := by
  induction cs generalizing high out with
  | nil => cases hescape
  | cons c cs ih =>
    by_cases hc : c = some '\\'
    · subst hc
      have hle : out.length ≤ cs.length + pending high := length_unescape_le h
      rw [List.length_cons]
      omega
    · have hstep : unescape .plain high (c :: cs)
          = (unescape .plain none cs).map (unpaired high ++ [c] ++ ·) :=
        unescape.eq_4 high c cs hc
      rw [hstep] at h
      obtain ⟨rest, hrest, rfl⟩ := Option.map_eq_some_iff.mp h
      have hlt := ih hrest ((List.mem_cons.1 hescape).resolve_left (Ne.symm hc))
      have hnone : pending none = 0 := rfl
      rw [List.length_append, List.length_append, length_unpaired, List.length_cons]
      simp only [List.length_cons, List.length_nil]
      omega

theorem eq_map_of_allChars? {cs : List (Option Char)} {ds : List Char}
    (h : allChars? cs = some ds) : cs = ds.map some := by
  induction cs generalizing ds with
  | nil =>
    obtain rfl := Option.some.inj h
    rfl
  | cons c cs ih =>
    cases c with
    | none => cases h
    | some c =>
      obtain ⟨es, hes, rfl⟩ := Option.map_eq_some_iff.mp h
      rw [ih hes, List.map_cons]

/-- A literal is no shorter than the text that it denotes, and longer if it has an escape. -/
theorem length_textLiteral? {raw : List (Option Char)} {s : String}
    (h : textLiteral? raw = some (text s)) :
    s.toList.length ≤ raw.length ∧ (some '\\' ∈ raw → s.toList.length < raw.length) := by
  obtain ⟨out, hout, htext⟩ := Option.map_eq_some_iff.mp h
  rcases hall : allChars? out with _ | cs
  · rw [hall] at htext
    cases htext
  · rw [hall] at htext
    have hs : s.toList = cs := by rw [← text.inj htext, String.toList_ofList]
    have hlength : out.length = s.toList.length := by
      rw [eq_map_of_allChars? hall, List.length_map, hs]
    rw [← hlength]
    exact ⟨length_unescape_le hout, length_unescape_lt hout⟩

/-! ## Where a text literal ends -/

/-- Every character but the closing quote is kept, and the literal goes on. -/
theorem scanStep_inText {read : List (Option Char)} {escaped : Bool} {c : Option Char}
    {tokens : List Token} {next : Scan} (hend : ¬(c = some '\x22' ∧ escaped = false))
    (h : scanStep (.inText read escaped) c = some (tokens, next)) :
    ∃ escaped', tokens = [] ∧ next = .inText (c :: read) escaped' ∧
      (∀ d, c = some d → ¬d.toNat < 0x20) ∧
      (escaped = false → c ≠ some '\\' → escaped' = false) := by
  unfold scanStep at h
  dsimp only at h
  split at h
  · have hescaped : escaped = true := by simpa using hend
    rw [if_pos hescaped] at h
    obtain ⟨rfl, rfl⟩ := Prod.mk.inj (Option.some.inj h)
    exact ⟨false, rfl, rfl, by rintro _ ⟨⟩; decide, fun _ _ => rfl⟩
  · obtain ⟨rfl, rfl⟩ := Prod.mk.inj (Option.some.inj h)
    exact ⟨_, rfl, rfl, by rintro _ ⟨⟩; decide, fun _ hne => absurd rfl hne⟩
  · rename_i d _ _
    split at h
    · cases h
    · rename_i hcontrol
      obtain ⟨rfl, rfl⟩ := Prod.mk.inj (Option.some.inj h)
      exact ⟨false, rfl, rfl, by rintro _ ⟨⟩; exact hcontrol, fun _ _ => rfl⟩
  · obtain ⟨rfl, rfl⟩ := Prod.mk.inj (Option.some.inj h)
    exact ⟨false, rfl, rfl, by rintro _ ⟨⟩, fun _ _ => rfl⟩

/-- A text literal ends at a quote. No control character stands in front of that one, and no other
quote, unless behind a backslash. -/
theorem exists_end_of_scanFrom {read cs : List (Option Char)} {escaped : Bool} {ts : List Token}
    (h : scanFrom (.inText read escaped) cs = some ts) :
    ∃ raw rest v more, cs = raw ++ some '\x22' :: rest ∧
      textLiteral? (read.reverse ++ raw) = some v ∧ ts = .leaf v :: more ∧
      (∀ c, some c ∈ raw → ¬c.toNat < 0x20) ∧
      (escaped = false → some '\\' ∉ raw → some '\x22' ∉ raw) := by
  induction cs generalizing read escaped ts with
  | nil => cases h
  | cons c cs ih =>
    obtain ⟨⟨tokens, next⟩, hstep, h⟩ := Option.bind_eq_some_iff.mp h
    obtain ⟨more, hmore, h⟩ := Option.bind_eq_some_iff.mp h
    obtain rfl := Option.some.inj h
    by_cases hend : c = some '\x22' ∧ escaped = false
    · obtain ⟨rfl, rfl⟩ := hend
      obtain ⟨v, hv, hnext⟩ := Option.map_eq_some_iff.mp hstep
      obtain ⟨rfl, rfl⟩ := Prod.mk.inj hnext
      exact ⟨[], cs, v, more, rfl, by rwa [List.append_nil], rfl, by simp, by simp⟩
    · -- Every other character is kept, and the literal goes on.
      have hkept : ∃ escaped', tokens = [] ∧ next = .inText (c :: read) escaped' ∧
          (∀ d, c = some d → ¬d.toNat < 0x20) ∧
          (escaped = false → c ≠ some '\\' → escaped' = false) :=
        scanStep_inText hend hstep
      obtain ⟨escaped', rfl, rfl, hcontrol, hescaped⟩ := hkept
      obtain ⟨raw, rest, v, more', rfl, hv, rfl, hall, hquote⟩ := ih hmore
      refine ⟨c :: raw, rest, v, more', rfl, ?_, rfl, ?_, ?_⟩
      · rwa [List.reverse_cons, List.append_assoc] at hv
      · intro d hd
        rcases List.mem_cons.1 hd with hd | hd
        · exact hcontrol d hd.symm
        · exact hall d hd
      · intro hplain hback
        rw [List.mem_cons, not_or] at hback ⊢
        have hback' := hescaped hplain (Ne.symm hback.1)
        exact ⟨fun hc => hend ⟨hc.symm, hplain⟩, hquote hback' hback.2⟩

/-- Behind a value there is nothing else. -/
theorem ofTokens?_leaf {v w : Json} {more : List Token} (h : ofTokens? (.leaf v :: more) = some w) :
    w = v := by
  have hstep : parseTokens ⟨.value, []⟩ (.leaf v :: more) = parseTokens ⟨.after v, []⟩ more :=
    parseTokens_cons rfl more
  unfold ofTokens? at h
  rw [hstep] at h
  cases more with
  | nil => exact (Option.some.inj h).symm
  | cons t more =>
    have hnone : parseTokens ⟨.after v, []⟩ (t :: more) = none := by
      cases t <;> rfl
    rw [hnone] at h
    cases h

theorem escapeChar_plain {c : Char} (h : IsPlain c) : escapeChar c = [c] := by
  obtain ⟨hquote, hback, hcontrol⟩ := h
  unfold escapeChar
  split
  · exact absurd rfl hquote
  · exact absurd rfl hback
  case h_8 => exact if_neg hcontrol
  all_goals exact absurd (by decide) hcontrol

theorem flatMap_escapeChar_plain {cs : List Char} (h : ∀ c ∈ cs, IsPlain c) :
    cs.flatMap escapeChar = cs := by
  rw [List.flatMap_congr fun c hc => escapeChar_plain (h c hc), List.flatMap_singleton']

/-- Between two quotes a text denotes itself exactly if all of its characters are plain. -/
theorem ofText?_quoted_iff (s : String) :
    ofText? ("\x22" ++ s ++ "\x22") = some (text s) ↔ ∀ c ∈ s.toList, IsPlain c := by
  have hquoted : ("\x22" ++ s ++ "\x22").toList = '\x22' :: (s.toList ++ ['\x22']) := by
    simp [String.toList_append]
  constructor
  · intro h
    unfold ofText? parse? scan at h
    rw [hquoted, List.map_cons, List.map_append] at h
    obtain ⟨ts, hscan, htokens⟩ := Option.bind_eq_some_iff.mp h
    have hstart : Scans .between [some '\x22'] [] (.inText [] false) := .single rfl
    have hinside : scanFrom (.inText [] false) (s.toList.map some ++ [some '\x22']) = some ts := by
      have hopen := hstart (s.toList.map some ++ [some '\x22'])
      rw [List.singleton_append] at hopen
      have hscan := hopen.symm.trans hscan
      simpa using hscan
    obtain ⟨raw, rest, v, more, htext, hliteral, rfl, hcontrol, hquote⟩ :=
      exists_end_of_scanFrom hinside
    obtain rfl := ofTokens?_leaf htokens
    rw [List.reverse_nil, List.nil_append] at hliteral
    -- No literal is shorter than the text that it denotes, so nothing in it is escaped.
    obtain ⟨hle, hlt⟩ := length_textLiteral? hliteral
    have hlengths : s.toList.length = raw.length + rest.length := by
      have hlength := congrArg List.length htext
      simp only [List.length_append, List.length_map, List.length_cons, List.length_nil] at hlength
      omega
    have hrest : rest = [] := List.length_eq_zero_iff.1 (by omega)
    subst hrest
    have hraw : s.toList.map some = raw := (List.append_inj htext (by simpa using hlengths)).1
    have hback : some '\\' ∉ raw := fun hmem => absurd (hlt hmem) (by simpa using hlengths.ge)
    intro c hc
    have hmem : some c ∈ raw := hraw ▸ List.mem_map_of_mem hc
    refine ⟨?_, ?_, hcontrol c hmem⟩
    · rintro rfl
      exact hquote rfl hback hmem
    · rintro rfl
      exact hback hmem
  · intro h
    have hescaped : s.toList.flatMap escapeChar = s.toList := flatMap_escapeChar_plain h
    have hprint : "\x22" ++ s ++ "\x22" = print (text s) := by
      refine String.toList_inj.1 ?_
      rw [hquoted, print, printChars, printText, hescaped, String.toList_ofList]
    rw [hprint, ofText?_print (.text s)]

end Json

/-! ## What a filter says -/

/-- What is read of a filter is the attribute and, behind the sign of equality, a literal of the
value. -/
def FilterDenotes (name value : String) : Prop :=
  ∃ literal,
    decodedText? (encodedFilter name value).toList = some (name ++ " Eq " ++ literal) ∧
      Json.ofText? literal = some (.text value)

/-- The literal of a filter is the value between two quotes. -/
theorem filterDenotes_iff_quoted (name value : String) :
    FilterDenotes name value ↔ Json.ofText? ("\x22" ++ value ++ "\x22") = some (.text value) := by
  have hread : decodedText? (encodedFilter name value).toList
      = some (name ++ " Eq " ++ ("\x22" ++ value ++ "\x22")) := by
    have hquote : " Eq \x22" = " Eq " ++ "\x22" := rfl
    rw [encodedFilter, decodedText?_component, equalityFilter, hquote]
    simp only [String.append_assoc]
  constructor
  · rintro ⟨literal, hliteral, hvalue⟩
    have hsame := (String.append_right_inj _).mp (Option.some.inj (hliteral.symm.trans hread))
    exact hsame ▸ hvalue
  · exact fun h => ⟨_, hread, h⟩

/-- A value with two quotes and an operator between them is another filter. -/
theorem equalityFilter_splice (name value other : String) :
    equalityFilter name (value ++ "\x22 or " ++ name ++ " Eq \x22" ++ other)
      = equalityFilter name value ++ " or " ++ equalityFilter name other := by
  have hquote : "\x22 or " = "\x22" ++ " or " := rfl
  unfold equalityFilter
  rw [hquote]
  simp only [String.append_assoc]

/-- The literal of a filter denotes the value exactly if no quote, no backslash and no control
character is in it. A value with quotes can make the filter one that other values meet as well. -/
theorem filter_denotes_iff (name value : String) :
    (FilterDenotes name value ↔ ∀ c ∈ value.toList, Json.IsPlain c) ∧
      ∀ other, equalityFilter name (value ++ "\x22 or " ++ name ++ " Eq \x22" ++ other)
        = equalityFilter name value ++ " or " ++ equalityFilter name other :=
  ⟨(filterDenotes_iff_quoted name value).trans (Json.ofText?_quoted_iff value),
    equalityFilter_splice name value⟩

/-- The filter for a name with a quote has no literal of the name. -/
theorem not_filterDenotes_quote : ¬FilterDenotes "name" "a\x22b" := by
  rw [filterDenotes_iff_quoted, Json.ofText?_quoted_iff]
  exact fun h => (h '\x22' (by decide)).1 rfl

end UaaAdmin
