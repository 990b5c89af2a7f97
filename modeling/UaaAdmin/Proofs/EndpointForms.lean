import Mathlib.Data.Bool.AllAny
import Mathlib.Data.List.DropRight
import Mathlib.Data.List.Induction
import UaaAdmin.Config.Basic
import UaaAdmin.Text.LetterCase

/-!
# The form of endpoints

An endpoint is cut at both ends, first of blanks and then of slashes (`stem`), and what is left gets
a scheme in front unless it begins with `http`. So a blank that stands in front of the slashes is
left at the end, a host whose name begins with `http` gets no scheme, and a scheme in capitals gets
another one in front.

The payoff is `endpoint_forms`. It says what becomes of any endpoint, and that it is as it should be
(`IsCanonical`) exactly if none of the three is the case.
-/

namespace UaaAdmin

/-! ## Cutting the ends of a list -/

namespace Text

variable {α : Type} {p : α → Bool} {l m : List α}

theorem dropEndWhile_eq_rdropWhile (p : α → Bool) (l : List α) :
    dropEndWhile p l = l.rdropWhile p := rfl

/-- What the list begins with stays if it does not end in a member that could be dropped. -/
theorem isPrefix_dropEndWhile {a : α} (ha : p a = false) (h : m ++ [a] <+: l) :
    m ++ [a] <+: dropEndWhile p l := by
  obtain ⟨rest, rfl⟩ := h
  induction rest using List.reverseRecOn with
  | nil =>
    simp [dropEndWhile_concat, ha]
  | append_singleton rest b ih =>
    rw [← List.append_assoc, dropEndWhile_concat]
    split
    · exact ih
    · rw [List.append_assoc]
      exact List.prefix_append _ _

end Text

/-! ## Texts of endpoints -/

open Text (trim trimEndSlashes isBlank asciiLower)

/-- The text begins with another one. -/
def StartsWith (s part : String) : Prop := part.toList <+: s.toList

instance (s part : String) : Decidable (StartsWith s part) :=
  inferInstanceAs (Decidable (_ <+: _))

/-- The text begins with one of the schemes of the web. -/
def HasWebScheme (s : String) : Prop := StartsWith s "http://" ∨ StartsWith s "https://"

instance (s : String) : Decidable (HasWebScheme s) := inferInstanceAs (Decidable (_ ∨ _))

/-- The text ends in a slash. -/
def EndsInSlash (s : String) : Prop := s.toList.getLast? = some '/'

/-- The text ends in a blank. -/
def EndsInBlank (s : String) : Prop := ∃ c, s.toList.getLast? = some c ∧ isBlank c = true

/-- What is left of an endpoint when the blanks around it and then the slashes at its end are
gone. -/
def stem (endpoint : String) : String := trimEndSlashes (trim endpoint)

variable {e s : String}

theorem HasWebScheme.startsWith_http (h : HasWebScheme s) : StartsWith s "http" :=
  h.elim (List.IsPrefix.trans (by decide)) (List.IsPrefix.trans (by decide))

theorem StartsWith.asciiLower {part : String} (h : StartsWith s part) :
    StartsWith (asciiLower s) (asciiLower part) := by
  unfold StartsWith Text.asciiLower
  rw [String.toList_ofList, String.toList_ofList]
  exact h.map Char.toLower

/-- The schemes of the web are written in small letters. -/
theorem HasWebScheme.asciiLower (h : HasWebScheme s) : HasWebScheme (asciiLower s) := by
  have hhttp : Text.asciiLower "http://" = "http://" := by decide +kernel
  have hhttps : Text.asciiLower "https://" = "https://" := by decide +kernel
  rcases h with h | h
  · exact .inl (hhttp ▸ h.asciiLower)
  · exact .inr (hhttps ▸ h.asciiLower)

theorem toList_trim : (trim e).toList = Text.dropBothWhile isBlank e.toList :=
  String.toList_ofList

theorem toList_stem : (stem e).toList = Text.dropEndWhile (· == '/') (trim e).toList :=
  String.toList_ofList

/-- Slashes are only dropped at the end. -/
theorem stem_isPrefix_trim : (stem e).toList <+: (trim e).toList := by
  rw [toList_stem]
  exact Text.dropEndWhile_isPrefix _ _

theorem HasWebScheme.of_stem (h : HasWebScheme (stem e)) : HasWebScheme (trim e) :=
  h.imp (·.trans stem_isPrefix_trim) (·.trans stem_isPrefix_trim)

/-- Nothing is put into the stem. -/
theorem mem_of_mem_stem {c : Char} (h : c ∈ (stem e).toList) : c ∈ e.toList := by
  have htrim : c ∈ Text.dropBothWhile isBlank e.toList := by
    rw [← toList_trim]
    exact stem_isPrefix_trim.subset h
  exact (List.dropWhile_suffix isBlank).subset ((Text.dropEndWhile_isPrefix _ _).subset htrim)

/-- What is cut off in front of the slashes are blanks. -/
theorem isBlank_or_mem_trim {c : Char} (h : c ∈ e.toList) :
    isBlank c = true ∨ c ∈ (trim e).toList := by
  rw [toList_trim, Text.dropBothWhile]
  rw [← List.takeWhile_append_dropWhile (p := isBlank) (l := e.toList), List.mem_append] at h
  rcases h with h | h
  · exact .inl (List.mem_takeWhile_imp h)
  · rw [← Text.dropEndWhile_append_dropped isBlank (e.toList.dropWhile isBlank),
      List.mem_append] at h
    rcases h with h | h
    · exact .inr h
    · exact .inl (List.mem_takeWhile_imp (List.mem_reverse.mp h))

/-- Nothing is left exactly of slashes and blanks. -/
theorem stem_eq_empty_iff : stem e = "" ↔ ∀ c ∈ (trim e).toList, c = '/' := by
  rw [← String.toList_eq_nil_iff, toList_stem, Text.dropEndWhile_eq_rdropWhile,
    List.rdropWhile_eq_nil_iff]
  exact forall₂_congr fun c _ => beq_iff_eq

/-- The stem does not end in a slash. -/
theorem not_endsInSlash_stem : ¬EndsInSlash (stem e) := by
  intro h
  unfold EndsInSlash at h
  rw [toList_stem] at h
  exact absurd (Text.dropEndWhile_getLast _ _ _ h) (by decide)

theorem StartsWith.toList_trim (hhttp : StartsWith s "http") :
    (trim s).toList = Text.dropEndWhile isBlank s.toList := by
  obtain ⟨rest, hs⟩ := hhttp
  rw [UaaAdmin.toList_trim, Text.dropBothWhile, ← hs]
  exact congrArg _ (List.dropWhile_cons_of_neg (by decide))

/-- The ends are cut at most as far as the `p`. -/
theorem StartsWith.stem (hhttp : StartsWith s "http") : StartsWith (stem s) "http" := by
  have htrim : "htt".toList ++ ['p'] <+: (trim s).toList := by
    rw [hhttp.toList_trim]
    exact Text.isPrefix_dropEndWhile (by decide) hhttp
  rw [StartsWith, toList_stem]
  exact Text.isPrefix_dropEndWhile (by decide) htrim

/-- A text that begins with `http` is not cut exactly if it ends in neither a slash nor a blank. -/
theorem stem_eq_self_iff (hhttp : StartsWith s "http") :
    stem s = s ↔ ¬EndsInSlash s ∧ ¬EndsInBlank s := by
  have htrim := hhttp.toList_trim
  constructor
  · intro h
    refine ⟨fun hslash => not_endsInSlash_stem (h.symm ▸ hslash), ?_⟩
    -- What the second cut leaves is part of what the first one leaves, so neither cuts anything.
    have hpart : s.toList <+: (trim s).toList := by
      have hstem := stem_isPrefix_trim (e := s)
      rwa [h] at hstem
    rw [htrim] at hpart
    have hself := hpart.eq_of_length_le (Text.dropEndWhile_isPrefix _ _).length_le
    rintro ⟨c, hc, hblank⟩
    rw [Text.dropEndWhile_eq_self_iff.mp hself.symm c hc] at hblank
    exact absurd hblank (by decide)
  · rintro ⟨hslash, hblank⟩
    have hself : (trim s).toList = s.toList := by
      rw [htrim, Text.dropEndWhile_eq_self_iff]
      intro c hc
      exact eq_false_of_ne_true fun hc' => hblank ⟨c, hc, hc'⟩
    rw [← String.toList_inj, toList_stem, hself, Text.dropEndWhile_eq_self_iff]
    intro c hc
    rw [beq_eq_false_iff_ne]
    rintro rfl
    exact hslash hc

/-! ## What an endpoint becomes -/

/-- An endpoint is its stem, with a scheme in front unless it begins as if it had one. -/
theorem endpointUrl_eq (e : String) : endpointUrl e =
    if stem e = "" then "" else if StartsWith (stem e) "http" then stem e
    else "https://" ++ stem e := by
  unfold endpointUrl StartsWith
  dsimp only
  simp only [List.isPrefixOf_iff_prefix]
  rfl

/-- What begins with `http` stays as it is. -/
theorem endpointUrl_of_http (h : StartsWith (stem e) "http") : endpointUrl e = stem e := by
  have hne : stem e ≠ "" := by
    intro hempty
    rw [hempty] at h
    exact absurd h (by decide)
  rw [endpointUrl_eq, if_neg hne, if_pos h]

/-- What does not begin with `http` gets the scheme in front. -/
theorem endpointUrl_of_not_http (hne : stem e ≠ "") (h : ¬StartsWith (stem e) "http") :
    endpointUrl e = "https://" ++ stem e := by
  rw [endpointUrl_eq, if_neg hne, if_neg h]

/-- Only of an empty stem nothing is made. -/
theorem endpointUrl_eq_empty_iff : endpointUrl e = "" ↔ stem e = "" := by
  rw [endpointUrl_eq]
  split
  · simp [*]
  · split
    · rfl
    · simp [*]

/-- An endpoint of which something is left gets something that begins with `http`. -/
theorem endpointUrl_startsWith_http (hne : stem e ≠ "") : StartsWith (endpointUrl e) "http" := by
  by_cases h : StartsWith (stem e) "http"
  · rwa [endpointUrl_of_http h]
  · rw [endpointUrl_of_not_http hne h]
    exact ⟨"s://".toList ++ (stem e).toList, by rw [String.toList_append]; rfl⟩

/-- A scheme in front does not change the end. -/
theorem getLast?_endpointUrl (e : String) :
    (endpointUrl e).toList.getLast? = (stem e).toList.getLast? := by
  by_cases hne : stem e = ""
  · rw [endpointUrl_eq_empty_iff.mpr hne, hne]
  · by_cases h : StartsWith (stem e) "http"
    · rw [endpointUrl_of_http h]
    · rw [endpointUrl_of_not_http hne h, String.toList_append,
        List.getLast?_append_of_ne_nil _ (mt String.toList_eq_nil_iff.mp hne)]

/-- A blank in front of the slashes at the end stays there. -/
theorem endsInBlank_endpointUrl_iff : EndsInBlank (endpointUrl e) ↔ EndsInBlank (stem e) := by
  rw [EndsInBlank, getLast?_endpointUrl]
  rfl

/-- An endpoint does not end in a slash. -/
theorem not_endsInSlash_endpointUrl : ¬EndsInSlash (endpointUrl e) := by
  rw [EndsInSlash, getLast?_endpointUrl]
  exact not_endsInSlash_stem

/-- A scheme is put in front exactly if what is left does not begin with `http`. -/
theorem endpointUrl_eq_prefixed_iff (hne : stem e ≠ "") :
    endpointUrl e = "https://" ++ stem e ↔ ¬StartsWith (stem e) "http" := by
  refine ⟨fun h hhttp => ?_, endpointUrl_of_not_http hne⟩
  rw [endpointUrl_of_http hhttp] at h
  have hlen := congrArg String.length h
  rw [String.length_append] at hlen
  exact absurd hlen (by simp)

/-- A second time changes nothing exactly if no blank is left at the end. -/
theorem endpointUrl_idempotent_iff :
    endpointUrl (endpointUrl e) = endpointUrl e ↔ ¬EndsInBlank (endpointUrl e) := by
  by_cases hne : stem e = ""
  · rw [endpointUrl_eq_empty_iff.mpr hne]
    exact iff_of_true (by decide +kernel) (by rintro ⟨c, hc, -⟩; exact absurd hc (by simp))
  · have hhttp := endpointUrl_startsWith_http hne
    rw [endpointUrl_of_http hhttp.stem, stem_eq_self_iff hhttp]
    exact and_iff_right not_endsInSlash_endpointUrl

/-! ## Endpoints in canonical form -/

/-- The endpoint gets the form that every endpoint should get. -/
structure IsCanonical (e : String) : Prop where
  /-- Nothing is left of blanks and slashes only. -/
  empty : endpointUrl e = "" ↔ ∀ c ∈ e.toList, isBlank c = true ∨ c = '/'
  /-- All else has a scheme of the web, -/
  scheme : endpointUrl e ≠ "" → HasWebScheme (endpointUrl e)
  /-- which is its own, however it is written, or else `https`. -/
  prefixed : endpointUrl e ≠ "" →
    (endpointUrl e = "https://" ++ stem e ↔ ¬HasWebScheme (asciiLower (trim e)))
  /-- Its end is neither a slash nor a blank. -/
  ends : endpointUrl e ≠ "" → ¬EndsInSlash (endpointUrl e) ∧ ¬EndsInBlank (endpointUrl e)
  /-- It would get the same form once more. -/
  idempotent : endpointUrl (endpointUrl e) = endpointUrl e

/-- An endpoint of slashes within blanks has no scheme in any case. -/
theorem not_hasWebScheme_of_stem_empty (h : stem e = "") : ¬HasWebScheme (asciiLower (trim e)) := by
  intro hscheme
  have hmem : 'h' ∈ (asciiLower (trim e)).toList := hscheme.startsWith_http.subset (by decide)
  rw [Text.asciiLower, String.toList_ofList] at hmem
  obtain ⟨c, hc, hlow⟩ := List.mem_map.mp hmem
  rw [stem_eq_empty_iff.mp h c hc] at hlow
  exact absurd hlow (by decide)

theorem isCanonical_of_stem_empty (h : stem e = "") : IsCanonical e where
  empty := iff_of_true (endpointUrl_eq_empty_iff.mpr h)
    fun _ hc => (isBlank_or_mem_trim hc).imp_right (stem_eq_empty_iff.mp h _)
  scheme hne := absurd (endpointUrl_eq_empty_iff.mpr h) hne
  prefixed hne := absurd (endpointUrl_eq_empty_iff.mpr h) hne
  ends hne := absurd (endpointUrl_eq_empty_iff.mpr h) hne
  idempotent := by
    rw [endpointUrl_eq_empty_iff.mpr h]
    decide +kernel

/-- Something other than blanks and slashes is there if no blank is left at the end. -/
theorem exists_other_of_not_endsInBlank (hne : stem e ≠ "") (hblank : ¬EndsInBlank (stem e)) :
    ¬∀ c ∈ e.toList, isBlank c = true ∨ c = '/' := by
  intro hall
  obtain ⟨c, hc⟩ := List.getLast?_isSome.mpr (mt String.toList_eq_nil_iff.mp hne) |>
    Option.isSome_iff_exists.mp
  rcases hall c (mem_of_mem_stem (List.mem_of_getLast? hc)) with hc' | rfl
  · exact hblank ⟨c, hc, hc'⟩
  · exact not_endsInSlash_stem hc

/-- A blank at the end, a host that begins with `http` and a scheme in capitals are what keeps an
endpoint from its canonical form. -/
theorem isCanonical_iff : IsCanonical e ↔
    ¬EndsInBlank (stem e) ∧
    (StartsWith (stem e) "http" → HasWebScheme (stem e)) ∧
    (HasWebScheme (asciiLower (trim e)) → StartsWith (stem e) "http") := by
  by_cases hne : stem e = ""
  · refine iff_of_true (isCanonical_of_stem_empty hne) ⟨?_, ?_, ?_⟩
    · rw [hne]
      rintro ⟨c, hc, -⟩
      exact absurd hc (by simp)
    · rw [hne]
      exact fun h => absurd h (by decide)
    · exact fun h => absurd h (not_hasWebScheme_of_stem_empty hne)
  · have hne' : endpointUrl e ≠ "" := mt endpointUrl_eq_empty_iff.mp hne
    constructor
    · intro h
      refine ⟨fun hblank => ?_, fun hhttp => ?_, fun hscheme => ?_⟩
      · exact (h.ends hne').2 (endsInBlank_endpointUrl_iff.mpr hblank)
      · exact endpointUrl_of_http hhttp ▸ h.scheme hne'
      · exact by_contra fun hno => (h.prefixed hne').mp (endpointUrl_of_not_http hne hno) hscheme
    · rintro ⟨hblank, hscheme, hcase⟩
      have hblank' : ¬EndsInBlank (endpointUrl e) := mt endsInBlank_endpointUrl_iff.mp hblank
      exact {
        empty := iff_of_false hne' (exists_other_of_not_endsInBlank hne hblank)
        scheme := fun _ => by
          by_cases hhttp : StartsWith (stem e) "http"
          · rw [endpointUrl_of_http hhttp]
            exact hscheme hhttp
          · rw [endpointUrl_of_not_http hne hhttp]
            exact .inr ⟨(stem e).toList, String.toList_append.symm⟩
        prefixed := fun _ => by
          rw [endpointUrl_eq_prefixed_iff hne, not_iff_not]
          exact ⟨fun hhttp => (hscheme hhttp).of_stem.asciiLower, hcase⟩
        ends := fun _ => ⟨not_endsInSlash_endpointUrl, hblank'⟩
        idempotent := endpointUrl_idempotent_iff.mpr hblank' }

/-- Nothing is left of an endpoint of slashes within blanks. All else begins with `http`, with a
scheme in front exactly if it did not already, and ends in no slash; it ends in a blank exactly if
there was one in front of the slashes at the end, and only then would it be changed once more. It is
as it should be exactly if there is none, if `http` at the beginning is the scheme, and if the
scheme is in small letters. -/
theorem endpoint_forms (e : String) :
    (endpointUrl e = "" ↔ ∀ c ∈ (trim e).toList, c = '/') ∧
    (endpointUrl e ≠ "" → StartsWith (endpointUrl e) "http" ∧
      (endpointUrl e = "https://" ++ stem e ↔ ¬StartsWith (stem e) "http")) ∧
    ¬EndsInSlash (endpointUrl e) ∧
    (EndsInBlank (endpointUrl e) ↔ EndsInBlank (stem e)) ∧
    (endpointUrl (endpointUrl e) = endpointUrl e ↔ ¬EndsInBlank (stem e)) ∧
    (IsCanonical e ↔ ¬EndsInBlank (stem e) ∧
      (StartsWith (stem e) "http" → HasWebScheme (stem e)) ∧
      (HasWebScheme (asciiLower (trim e)) → StartsWith (stem e) "http")) := by
  refine ⟨endpointUrl_eq_empty_iff.trans stem_eq_empty_iff, fun hne => ?_,
    not_endsInSlash_endpointUrl, endsInBlank_endpointUrl_iff, ?_, isCanonical_iff⟩
  · rw [Ne, endpointUrl_eq_empty_iff] at hne
    exact ⟨endpointUrl_startsWith_http hne, endpointUrl_eq_prefixed_iff hne⟩
  · rw [endpointUrl_idempotent_iff, endsInBlank_endpointUrl_iff]

/-- A host whose name begins with `http` gets no scheme. A blank between slashes is taken for an
address, and one in front of a slash is left at the end; a scheme in capitals gets another one. -/
theorem endpoints_not_canonical :
    (endpointUrl "httpbin.org" = "httpbin.org" ∧ ¬IsCanonical "httpbin.org") ∧
    (endpointUrl "/ /" = "https:/// " ∧ ¬IsCanonical "/ /") ∧
    (endpointUrl "a /" = "https://a " ∧ ¬IsCanonical "a /") ∧
    endpointUrl "HTTP://h" = "https://HTTP://h" ∧ ¬IsCanonical "HTTP://h" := by
  refine ⟨⟨by decide +kernel, fun h => ?_⟩, ⟨by decide +kernel, fun h => ?_⟩,
    ⟨by decide +kernel, fun h => ?_⟩, by decide +kernel, fun h => ?_⟩
  · exact absurd (h.scheme (by decide +kernel)) (by decide +kernel)
  · have hall : ∀ c ∈ "/ /".toList, isBlank c = true ∨ c = '/' :=
      List.all_iff_forall_prop.1 (by decide +kernel)
    exact absurd (h.empty.mpr hall) (by decide +kernel)
  · exact absurd h.idempotent (by decide +kernel)
  · exact absurd ((h.prefixed (by decide +kernel)).mp (by decide +kernel)) (by decide +kernel)

end UaaAdmin
