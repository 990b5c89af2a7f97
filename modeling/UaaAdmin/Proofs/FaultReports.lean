import UaaAdmin.Proofs.SessionOpening

/-!
# What a failure says

The body of an answer without success either is a report, with the code and the description of what
went wrong, or is kept as the description itself. `Explains` says what a text explains, whatever
reads it; a report may lack one of its two parts, or have `null` there.

It may lack both, and then what else is in the body is lost, because it has been read as a report.
The payoff is `failure_explained`: in no other case is anything lost.
-/

namespace UaaAdmin

/-! ## Reports -/

/-- A value reports a code and a description. An object has them as members among others, and an
array as its two items. -/
inductive Reports : Json → Option String → Option String → Prop
  | object {ms : List (String × Json)} {code description : Option String}
    (hcode : MayBeText (valuesOf "error" ms) code)
    (hdescription : MayBeText (valuesOf "error_description" ms) description) :
    Reports (.object ms) code description
  | pair {v w : Json} {code description : Option String} (hcode : MayBeText [v] code)
    (hdescription : MayBeText [w] description) : Reports (.array [v, w]) code description

namespace FaultBody

/-- The field of the code. -/
def codeField : Field FaultBody := ⟨"error", slot, code, fun a s => { s with code := a }⟩

/-- The field of the description. -/
def descriptionField : Field FaultBody :=
  ⟨"error_description", slot, description, fun a s => { s with description := a }⟩

theorem read?_slot : slot.read? = (Slot.optional (α := String)).read? := rfl

theorem missing_slot : slot.missing = some none := rfl

theorem ofMembers?_code_iff {ms : List (String × Json)} {a : Option String} :
    codeField.ofMembers? ms = some a ↔ MayBeText (valuesOf "error" ms) a :=
  Field.ofMembers?_text_iff read?_slot missing_slot

theorem ofMembers?_description_iff {ms : List (String × Json)} {a : Option String} :
    descriptionField.ofMembers? ms = some a ↔ MayBeText (valuesOf "error_description" ms) a :=
  Field.ofMembers?_text_iff read?_slot missing_slot

/-- An object reports what its two members say. -/
theorem readMembers?_eq_some_iff {ms : List (String × Json)} {b : FaultBody} :
    Layout.readMembers? ms layout.fields default = some b ↔
      MayBeText (valuesOf "error" ms) b.code ∧
        MayBeText (valuesOf "error_description" ms) b.description := by
  constructor
  · intro h
    obtain ⟨code, hcode, h⟩ := Option.bind_eq_some_iff.mp h
    obtain ⟨description, hdescription, h⟩ := Option.bind_eq_some_iff.mp h
    obtain rfl := Option.some.inj h
    exact ⟨ofMembers?_code_iff.mp hcode, ofMembers?_description_iff.mp hdescription⟩
  · rintro ⟨hcode, hdescription⟩
    refine Option.bind_eq_some_iff.mpr ⟨b.code, ofMembers?_code_iff.mpr hcode, ?_⟩
    exact Option.bind_eq_some_iff.mpr
      ⟨b.description, ofMembers?_description_iff.mpr hdescription, rfl⟩

/-- An array reports what its two items say. -/
theorem readItems?_eq_some_iff {vs : List Json} {b : FaultBody} :
    Layout.readItems? layout.fields vs default = some b ↔
      ∃ v w, vs = [v, w] ∧ MayBeText [v] b.code ∧ MayBeText [w] b.description := by
  constructor
  · intro h
    rcases vs with _ | ⟨v, vs⟩
    · exact absurd h (by simp [slot, Layout.readItems?])
    obtain ⟨code, hcode, h⟩ := Option.bind_eq_some_iff.mp h
    rcases vs with _ | ⟨w, vs⟩
    · exact absurd h (by simp [slot, Layout.readItems?])
    obtain ⟨description, hdescription, h⟩ := Option.bind_eq_some_iff.mp h
    rcases vs with _ | ⟨w', rest⟩
    · obtain rfl := Option.some.inj h
      exact ⟨v, w, rfl, Slot.read?_optional_text_iff.mp hcode,
        Slot.read?_optional_text_iff.mp hdescription⟩
    · exact absurd h (by simp [Layout.readItems?])
  · rintro ⟨v, w, rfl, hcode, hdescription⟩
    refine Option.bind_eq_some_iff.mpr ⟨b.code, Slot.read?_optional_text_iff.mpr hcode, ?_⟩
    exact Option.bind_eq_some_iff.mpr
      ⟨b.description, Slot.read?_optional_text_iff.mpr hdescription, rfl⟩

/-- What is read from a value is what it reports. -/
theorem read?_eq_some_iff {v : Json} {b : FaultBody} :
    JsonForm.read? v = some b ↔ Reports v b.code b.description := by
  constructor
  · intro h
    cases v with
    | object ms =>
      obtain ⟨hcode, hdescription⟩ := readMembers?_eq_some_iff.mp h
      exact .object hcode hdescription
    | array vs =>
      obtain ⟨v, w, rfl, hcode, hdescription⟩ := readItems?_eq_some_iff.mp h
      exact .pair hcode hdescription
    | _ => exact absurd h (by simp [JsonForm.read?, Layout.read?])
  · intro h
    generalize hc : b.code = code at h
    generalize hd : b.description = description at h
    cases h with
    | object hcode hdescription =>
      exact readMembers?_eq_some_iff.mpr ⟨hc ▸ hcode, hd ▸ hdescription⟩
    | pair hcode hdescription =>
      exact readItems?_eq_some_iff.mpr ⟨_, _, rfl, hc ▸ hcode, hd ▸ hdescription⟩

end FaultBody

theorem Reports.unique {v : Json} {code description code' description' : Option String}
    (h : Reports v code description) (h' : Reports v code' description') :
    code' = code ∧ description' = description := by
  have hread := FaultBody.read?_eq_some_iff (b := ⟨code, description⟩).mpr h
  have hread' := FaultBody.read?_eq_some_iff (b := ⟨code', description'⟩).mpr h'
  exact FaultBody.mk.inj (Option.some.inj (hread'.symm.trans hread))

/-! ## Blank texts -/

namespace Json

theorem isWordChar_bounds {c : Char} (h : isWordChar c = true) :
    0x2b ≤ c.toNat ∧ c.toNat ≤ 0x7a := by
  simp only [isWordChar, Bool.or_eq_true, Bool.and_eq_true, decide_eq_true_eq, beq_iff_eq,
    Char.le_def, UInt32.le_iff_toNat_le] at h
  rcases h with ((((hrange | hrange) | hrange) | rfl) | rfl) | rfl
  · exact ⟨Nat.le_trans (by decide) hrange.1, Nat.le_trans hrange.2 (by decide)⟩
  · exact ⟨Nat.le_trans (by decide) hrange.1, Nat.le_trans hrange.2 (by decide)⟩
  · exact ⟨Nat.le_trans (by decide) hrange.1, Nat.le_trans hrange.2 (by decide)⟩
  · decide
  · decide
  · decide

/-- A word has no blanks in it. -/
theorem not_isBlank_of_isWordChar {c : Char} (h : isWordChar c = true) :
    ¬Text.isBlank c = true := by
  intro hblank
  obtain ⟨hlow, hhigh⟩ := isWordChar_bounds h
  simp only [Text.isBlank, Bool.or_eq_true, Bool.and_eq_true, decide_eq_true_eq, beq_iff_eq]
    at hblank
  omega

/-- A blank character stands between tokens, or no token starts with it. -/
theorem scanFresh_of_isBlank {c : Char} (h : Text.isBlank c = true) :
    scanFresh c = some ([], .between) ∨ scanFresh c = none := by
  unfold scanFresh
  by_cases hspace : isSpace c = true
  · rw [if_pos hspace]
    exact .inl rfl
  · have hword : ¬isWordChar c = true := fun hword => not_isBlank_of_isWordChar hword h
    rw [if_neg hspace, if_neg hword]
    -- The marks of JSON are no blanks.
    split
    case h_8 => exact .inr rfl
    all_goals exact absurd h (by decide)

/-- A blank text has no tokens. -/
theorem scanFrom_of_blank {cs : List Char} (h : ∀ c ∈ cs, Text.isBlank c = true)
    {ts : List Token} (hts : scanFrom .between (cs.map some) = some ts) : ts = [] := by
  induction cs generalizing ts with
  | nil => exact (Option.some.inj hts).symm
  | cons c cs ih =>
    obtain ⟨hc, hcs⟩ := List.forall_mem_cons.mp h
    obtain ⟨⟨tokens, next⟩, hstep, hrest⟩ := Option.bind_eq_some_iff.mp hts
    obtain ⟨more, hmore, hall⟩ := Option.bind_eq_some_iff.mp hrest
    rcases scanFresh_of_isBlank hc with hfresh | hfresh
    · obtain ⟨rfl, rfl⟩ := Prod.mk.inj (Option.some.inj (hfresh.symm.trans hstep))
      obtain rfl := ih hcs hmore
      exact (Option.some.inj hall).symm
    · exact absurd (hfresh.symm.trans hstep) (by simp)

/-- A blank text denotes nothing. -/
theorem ofText?_of_blank {s : String} (h : Text.allBlank s = true) : ofText? s = none := by
  rw [ofText?, parse?, scan]
  rcases hts : scanFrom .between (s.toList.map some) with _ | ts
  · rfl
  · obtain rfl := scanFrom_of_blank (List.all_eq_true.mp h) hts
    rfl

end Json

/-! ## Explanations -/

/-- What a text explains: what it reports, if it is a report, nothing, if it is blank, and else
itself, without the blanks around it. -/
inductive Explains (text : String) : Option String → Option String → Prop
  | report {v : Json} {code description : Option String} (hv : Json.ofText? text = some v)
    (h : Reports v code description) : Explains text code description
  | blank (h : Text.allBlank text = true) : Explains text none none
  | verbatim (hblank : ¬Text.allBlank text = true)
    (hother : ∀ v code description, Json.ofText? text = some v → ¬Reports v code description) :
    Explains text none (some (Text.trim text))

namespace Explains

variable {text : String} {code description code' description' : Option String}

theorem of_report {v : Json} (hv : Json.ofText? text = some v)
    (hreports : Reports v code description) (h : Explains text code' description') :
    code' = code ∧ description' = description := by
  cases h with
  | report hv' hreports' =>
    obtain rfl := Option.some.inj (hv.symm.trans hv')
    exact hreports.unique hreports'
  | blank hblank => exact absurd (hv.symm.trans (Json.ofText?_of_blank hblank)) (by simp)
  | verbatim _ hother => exact absurd hreports (hother v code description hv)

/-- A text explains one thing only. -/
theorem unique (h : Explains text code description) (h' : Explains text code' description') :
    code' = code ∧ description' = description := by
  cases h with
  | report hv hreports => exact of_report hv hreports h'
  | blank hblank =>
    cases h' with
    | report hv hreports =>
      exact absurd (hv.symm.trans (Json.ofText?_of_blank hblank)) (by simp)
    | blank => exact ⟨rfl, rfl⟩
    | verbatim hnot => exact absurd hblank hnot
  | verbatim hnot hother =>
    cases h' with
    | report hv hreports => exact absurd hreports (hother _ _ _ hv)
    | blank hblank => exact absurd hblank hnot
    | verbatim => exact ⟨rfl, rfl⟩

/-- Only a blank text and a report without its two parts explain nothing. -/
theorem none_iff : Explains text none none ↔
    Text.allBlank text = true ∨ ∃ v, Json.ofText? text = some v ∧ Reports v none none := by
  constructor
  · intro h
    cases h with
    | report hv hreports => exact .inr ⟨_, hv, hreports⟩
    | blank hblank => exact .inl hblank
  · rintro (hblank | ⟨v, hv, hreports⟩)
    · exact .blank hblank
    · exact .report hv hreports

end Explains

namespace Fault

/-- The fault of an answer has what the body of the answer explains. -/
theorem explains_ofReply (reply : Net.Reply) : ∃ code description,
    ofReply reply = .http reply.status code description ∧
      Explains (Text.Utf8.decodeLossy reply.content) code description := by
  unfold ofReply
  generalize Text.Utf8.decodeLossy reply.content = text
  dsimp only
  rcases hread : (Json.ofText? text).bind (JsonForm.read? (α := FaultBody)) with _ | b
  · dsimp only
    by_cases hblank : Text.allBlank text = true
    · rw [if_pos hblank]
      exact ⟨none, none, rfl, .blank hblank⟩
    · rw [if_neg hblank]
      refine ⟨none, some (Text.trim text), rfl, .verbatim hblank ?_⟩
      intro v code description hv hreports
      have hsome := FaultBody.read?_eq_some_iff (b := ⟨code, description⟩).mpr hreports
      rw [hv, Option.bind_some, hsome] at hread
      exact absurd hread (by simp)
  · obtain ⟨v, hv, hb⟩ := Option.bind_eq_some_iff.mp hread
    exact ⟨b.code, b.description, rfl, .report hv (FaultBody.read?_eq_some_iff.mp hb)⟩

/-- The code of a fault stands in its text. -/
theorem httpText_code (status : Nat) (code : String) (description : Option String) :
    ∃ front back, httpText status (some code) description
      = front ++ ", error code: " ++ code ++ back := by
  refine ⟨"Server error, status code: " ++ toString status,
    (description.map (", message: " ++ ·)).getD "", ?_⟩
  unfold httpText
  rw [Option.map_some, Option.getD_some]
  exact congrArg (· ++ _) String.append_assoc.symm

/-- The description of a fault ends its text. -/
theorem httpText_description (status : Nat) (code : Option String) (description : String) :
    ∃ front, httpText status code (some description) = front ++ ", message: " ++ description := by
  refine ⟨"Server error, status code: " ++ toString status
    ++ (code.map (", error code: " ++ ·)).getD "", ?_⟩
  unfold httpText
  rw [Option.map_some, Option.getD_some]
  exact String.append_assoc.symm

end Fault

/-- Whatever the body of an answer without success is, the fault has the status of the answer and
what the body explains, and its wording shows both. It has neither a code nor a description only if
the body is blank, or is a report that lacks both: then all else that it may hold is lost. -/
theorem failure_explained (reply : Net.Reply) :
    let text := Text.Utf8.decodeLossy reply.content
    ∃ code description, Fault.ofReply reply = .http reply.status code description ∧
      (∀ code' description', Explains text code' description' ↔
        code' = code ∧ description' = description) ∧
      (code = none ∧ description = none ↔
        Text.allBlank text = true ∨ ∃ v, Json.ofText? text = some v ∧ Reports v none none) ∧
      (∀ s, code = some s →
        ∃ front back, (Fault.ofReply reply).message = front ++ ", error code: " ++ s ++ back) ∧
      (∀ s, description = some s →
        ∃ front, (Fault.ofReply reply).message = front ++ ", message: " ++ s) ∧
      (∀ (e : Endpoint) (m : Net.Method) (path : String) (content : Net.Content) (c : Connection)
        (r : Net.Request), e.request m path content = .ok r →
        (c.network.exchange r).1 = .answered reply → ¬reply.isSuccess →
          ((e.send m path content).runOn c).1 = .error (Fault.ofReply reply)) := by
  intro text
  obtain ⟨code, description, hfault, hexplains⟩ := Fault.explains_ofReply reply
  have hunique (code' description' : Option String) : Explains text code' description' ↔
      code' = code ∧ description' = description := by
    constructor
    · exact hexplains.unique
    · rintro ⟨rfl, rfl⟩
      exact hexplains
  refine ⟨code, description, hfault, hunique, ?nothing, ?code, ?description, ?request⟩
  case nothing =>
    rw [← Explains.none_iff, hunique, eq_comm (a := none), eq_comm (a := none)]
  case code =>
    rintro s rfl
    rw [hfault]
    exact Fault.httpText_code reply.status s description
  case description =>
    rintro s rfl
    rw [hfault]
    exact Fault.httpText_description reply.status code s
  case request =>
    intro e m path content c r hr hanswer hfail
    rw [Endpoint.runOn_send, hr]
    dsimp only [Connection.single]
    rw [hanswer]
    exact if_neg hfail

/-- An object that tells what went wrong in other members than those of a report is read as one. -/
theorem explanation_swallowed :
    let reply : Net.Reply := ⟨500, Text.Utf8.encode "\x7b\"message\":\"quota exceeded\"\x7d"⟩
    let text := Text.Utf8.decodeLossy reply.content
    ¬reply.isSuccess ∧ ¬Text.allBlank text ∧
      Text.trim text = "\x7b\"message\":\"quota exceeded\"\x7d" ∧
      Fault.ofReply reply = .http 500 none none ∧
      (Fault.ofReply reply).message = "Server error, status code: 500" := by
  decide +kernel

end UaaAdmin
