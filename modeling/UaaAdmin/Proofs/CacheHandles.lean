import Mathlib.Logic.Relation
import UaaAdmin.Proofs.CacheSteps

/-!
# Caches that are held by several handles

Handles are `Connected` if one comes of the other by sharing, over any number of steps. A handle
holds the cache at its place. Places are never changed, and two handles have the same one exactly if
they are connected (`connected_iff`); what is at a place is a matter of the steps on the handles
there (`tracks_after`), and no other step makes a difference to it (`agreeBut_after`).

The payoff is `handles_see_first_entries`: through a handle one sees what was first put in by steps
on the handles connected to it.
-/

namespace UaaAdmin

namespace CacheHandles

/-! ## Connected handles -/

/-- The handle `b` was made by sharing the handle `a`. -/
def Shared (steps : List CacheStep) (a b : Nat) : Prop :=
  ∃ earlier later, steps = earlier ++ .share a :: later ∧ handleCount earlier = b

/-- The handles come of one another by sharing. -/
def Connected (steps : List CacheStep) : Nat → Nat → Prop := Relation.EqvGen (Shared steps)

/-- The handle was made with a cache of its own. -/
def IsNew (steps : List CacheStep) (r : Nat) : Prop :=
  ∃ earlier later, steps = earlier ++ .create :: later ∧ handleCount earlier = r

/-! ## Places -/

/-- There are as many handles as were made, and each has a place at which there is a cache. -/
structure Fits (s : CacheHandles) (n : Nat) : Prop where
  length : s.places.length = n
  places : ∀ p ∈ s.places, p < s.caches.length

theorem Fits.perform {s : CacheHandles} {n : Nat} (h : s.Fits n) {step : CacheStep}
    (hstep : ∀ k ∈ step.handle?, k < n) :
    (s.perform step).2.Fits (if step.makesHandle then n + 1 else n) := by
  obtain ⟨rfl, hplaces⟩ := h
  have hset (k : Nat) (c : GroupCache) : (s.setCache k c).Fits s.places.length :=
    ⟨rfl, fun p hp => by
      show p < (s.caches.set _ c).length
      rw [List.length_set]
      exact hplaces p hp⟩
  -- Places only grow, and a new one is that of a cache which is there.
  cases step with
  | create =>
    refine ⟨List.length_append, fun p hp => ?_⟩
    show p < (s.caches ++ [∅]).length
    rw [List.length_append]
    rcases List.mem_append.mp hp with hp | hp
    · exact Nat.lt_succ_of_lt (hplaces p hp)
    · obtain rfl := List.mem_singleton.mp hp
      exact Nat.lt_succ_self _
  | share k =>
    refine ⟨List.length_append, fun p hp => ?_⟩
    rcases List.mem_append.mp hp with hp | hp
    · exact hplaces p hp
    · obtain rfl := List.mem_singleton.mp hp
      rw [List.getD_eq_getElem?_getD, List.getElem?_eq_getElem (hstep k rfl), Option.getD_some]
      exact hplaces _ (List.getElem_mem _)
  | insert k zone groups => exact hset k _
  | invalidate k zone => exact hset k _
  | reset k => exact hset k _
  | get k zone => exact ⟨rfl, hplaces⟩
  | contains k zone => exact ⟨rfl, hplaces⟩

theorem fits_after {steps : List CacheStep} (h : Valid steps) :
    (after steps).Fits (handleCount steps) := by
  induction steps using List.reverseRecOn with
  | nil => exact ⟨rfl, by simp [after]⟩
  | append_singleton steps step ih =>
    obtain ⟨hvalid, hstep⟩ := valid_concat.mp h
    rw [after_concat, handleCount_concat]
    exact (ih hvalid).perform hstep

/-- A handle keeps its place. -/
theorem places_grow (s : CacheHandles) (step : CacheStep) :
    s.places <+: (s.perform step).2.places := by
  cases step with
  | create => exact List.prefix_append _ _
  | share h => exact List.prefix_append _ _
  | _ => exact List.prefix_rfl

theorem places_after_grow (steps steps' : List CacheStep) :
    (after steps).places <+: (after (steps ++ steps')).places := by
  induction steps' using List.reverseRecOn with
  | nil => exact (List.append_nil steps).symm ▸ List.prefix_rfl
  | append_singleton steps' step ih =>
    rw [← List.append_assoc, after_concat]
    exact ih.trans (places_grow _ step)

theorem getElem?_places_after {steps : List CacheStep} (hvalid : Valid steps)
    (steps' : List CacheStep) {k : Nat} (hk : k < handleCount steps) :
    (after (steps ++ steps')).places[k]? = (after steps).places[k]? := by
  obtain ⟨more, hmore⟩ := places_after_grow steps steps'
  rw [← hmore, List.getElem?_append_left ((fits_after hvalid).length.symm ▸ hk)]

/-! ## Places of connected handles -/

section

variable {steps : List CacheStep} {step : CacheStep} {a b r : Nat}

/-- Sharing puts the new handle at the place of the old one. -/
theorem Shared.place_eq (hvalid : Valid steps) (h : Shared steps a b) :
    (after steps).places[a]? = (after steps).places[b]? := by
  obtain ⟨earlier, later, rfl, rfl⟩ := h
  rw [List.append_cons] at hvalid ⊢
  obtain ⟨hshare, -⟩ := valid_append.mp hvalid
  obtain ⟨hearlier, hk⟩ := valid_concat.mp hshare
  -- Both places are those right after the sharing, which later steps keep.
  have ha : a < handleCount earlier := hk a rfl
  have hlength := (fits_after hearlier).length
  have hcount : handleCount (earlier ++ [.share a]) = handleCount earlier + 1 :=
    handleCount_concat earlier (.share a)
  have hold : (after earlier).places[a]? = some ((after earlier).places.getD a 0) := by
    rw [List.getD_eq_getElem?_getD, List.getElem?_eq_getElem (hlength ▸ ha), Option.getD_some]
  have hplaces : (after (earlier ++ [.share a])).places
      = (after earlier).places ++ [(after earlier).places.getD a 0] := by
    rw [after_concat]
    rfl
  rw [getElem?_places_after hshare later (by omega), getElem?_places_after hshare later (by omega),
    getElem?_places_after hearlier _ ha, hold, hplaces, ← hlength, List.getElem?_concat_length]

/-- Connected handles have the same place. -/
theorem Connected.place_eq (hvalid : Valid steps) (h : Connected steps a b) :
    (after steps).places[a]? = (after steps).places[b]? := by
  induction h with
  | rel a b h => exact h.place_eq hvalid
  | refl a => rfl
  | symm a b _ ih => exact ih.symm
  | trans a b c _ _ ih ih' => exact ih.trans ih'

theorem Shared.concat (h : Shared steps a b) (step : CacheStep) : Shared (steps ++ [step]) a b := by
  obtain ⟨earlier, later, rfl, hb⟩ := h
  exact ⟨earlier, later ++ [step], by simp, hb⟩

theorem Connected.concat (h : Connected steps a b) (step : CacheStep) :
    Connected (steps ++ [step]) a b :=
  Relation.EqvGen.mono (fun _ _ h => Shared.concat h step) a b h

/-- The handle that sharing gives is connected to the one that was shared. -/
theorem connected_share (steps : List CacheStep) (k : Nat) :
    Connected (steps ++ [.share k]) k (handleCount steps) :=
  .rel _ _ ⟨steps, [], rfl, rfl⟩

/-- A cache of its own is at another place than every cache before. -/
theorem place_create_ne (hvalid : Valid steps) {k : Nat} (hk : k < handleCount steps) :
    (after (steps ++ [.create])).places[k]?
      ≠ (after (steps ++ [.create])).places[handleCount steps]? := by
  have hfits := fits_after hvalid
  have hlt : k < (after steps).places.length := hfits.length.symm ▸ hk
  have hplaces : (after (steps ++ [.create])).places
      = (after steps).places ++ [(after steps).caches.length] := by
    rw [after_concat]
    rfl
  rw [getElem?_places_after hvalid _ hk, hplaces, ← hfits.length, List.getElem?_concat_length,
    List.getElem?_eq_getElem hlt]
  intro h
  exact absurd (Option.some.inj h) (Nat.ne_of_lt (hfits.places _ (List.getElem_mem hlt)))

/-- Handles at the same place are connected. -/
theorem connected_of_place (hvalid : Valid steps) (ha : a < handleCount steps)
    (hb : b < handleCount steps) (h : (after steps).places[a]? = (after steps).places[b]?) :
    Connected steps a b := by
  induction steps using List.reverseRecOn generalizing a b with
  | nil => exact absurd ha (Nat.not_lt_zero a)
  | append_singleton steps step ih =>
    obtain ⟨hbefore, hstep⟩ := valid_concat.mp hvalid
    have hold {a b : Nat} (ha : a < handleCount steps) (hb : b < handleCount steps)
        (h : (after (steps ++ [step])).places[a]? = (after (steps ++ [step])).places[b]?) :
        Connected (steps ++ [step]) a b := by
      rw [getElem?_places_after hbefore _ ha, getElem?_places_after hbefore _ hb] at h
      exact (ih hbefore ha hb h).concat step
    by_cases hmakes : step.makesHandle = true
    · -- A new handle is at the place of an old one only if it comes of sharing.
      have hnew {k : Nat} (hk : k < handleCount steps)
          (h : (after (steps ++ [step])).places[k]?
            = (after (steps ++ [step])).places[handleCount steps]?) :
          Connected (steps ++ [step]) k (handleCount steps) := by
        cases step with
        | create => exact absurd h (place_create_ne hbefore hk)
        | share j =>
          have hshare := connected_share steps j
          exact (hold hk (hstep j rfl) (h.trans (hshare.place_eq hvalid).symm)).trans _ _ _ hshare
        | _ => exact absurd hmakes (by simp [CacheStep.makesHandle])
      rw [handleCount_concat, if_pos hmakes] at ha hb
      rcases Nat.lt_succ_iff_lt_or_eq.mp ha with ha | rfl
      · rcases Nat.lt_succ_iff_lt_or_eq.mp hb with hb | rfl
        · exact hold ha hb h
        · exact hnew ha h
      · rcases Nat.lt_succ_iff_lt_or_eq.mp hb with hb | rfl
        · exact .symm _ _ (hnew hb h.symm)
        · exact .refl _
    · rw [handleCount_concat, if_neg hmakes] at ha hb
      exact hold ha hb h

/-- Handles are connected exactly if they have the same place. -/
theorem connected_iff (hvalid : Valid steps) (hb : b < handleCount steps) :
    Connected steps a b ↔ (after steps).places[a]? = (after steps).places[b]? := by
  refine ⟨Connected.place_eq hvalid, fun h => connected_of_place hvalid ?_ hb h⟩
  have hlength := (fits_after hvalid).length
  have hlt : b < (after steps).places.length := by rwa [hlength]
  rw [List.getElem?_eq_getElem hlt] at h
  obtain ⟨ha, -⟩ := List.getElem?_eq_some_iff.mp h
  rwa [hlength] at ha

/-! ## Caches of their own -/

theorem isNew_concat : IsNew (steps ++ [step]) r ↔
    IsNew steps r ∨ step = .create ∧ r = handleCount steps := by
  constructor
  · rintro ⟨earlier, later, hsplit, rfl⟩
    rcases concat_eq_append_cons hsplit with ⟨rfl, rfl, -⟩ | ⟨later', -, hsteps⟩
    · exact .inr ⟨rfl, rfl⟩
    · exact .inl ⟨earlier, later', hsteps, rfl⟩
  · rintro (⟨earlier, later, rfl, hr⟩ | ⟨rfl, rfl⟩)
    · exact ⟨earlier, later ++ [step], by simp, hr⟩
    · exact ⟨steps, [], rfl, rfl⟩

theorem IsNew.lt (h : IsNew steps r) : r < handleCount steps := by
  obtain ⟨earlier, later, rfl, rfl⟩ := h
  have hcreate : handleCount (.create :: later) = handleCount later + 1 :=
    List.countP_cons_of_pos rfl
  rw [handleCount_append, hcreate]
  omega

/-- Every handle comes of one that was made with a cache of its own. -/
theorem exists_new (hvalid : Valid steps) {h : Nat} (hh : h < handleCount steps) :
    ∃ r, IsNew steps r ∧ Connected steps r h := by
  induction steps using List.reverseRecOn generalizing h with
  | nil => exact absurd hh (Nat.not_lt_zero h)
  | append_singleton steps step ih =>
    obtain ⟨hbefore, hstep⟩ := valid_concat.mp hvalid
    have hold {h : Nat} (hh : h < handleCount steps) :
        ∃ r, IsNew (steps ++ [step]) r ∧ Connected (steps ++ [step]) r h := by
      obtain ⟨r, hnew, hr⟩ := ih hbefore hh
      exact ⟨r, isNew_concat.mpr (.inl hnew), hr.concat step⟩
    rw [handleCount_concat] at hh
    split at hh
    · rename_i hmakes
      rcases Nat.lt_succ_iff_lt_or_eq.mp hh with hh | rfl
      · exact hold hh
      · cases step with
        | create => exact ⟨_, isNew_concat.mpr (.inr ⟨rfl, rfl⟩), .refl _⟩
        | share k =>
          obtain ⟨r, hnew, hr⟩ := hold (hstep k rfl)
          exact ⟨r, hnew, hr.trans _ _ _ (connected_share steps k)⟩
        | _ => exact absurd hmakes (by simp [CacheStep.makesHandle])
    · exact hold hh

/-- No two of these are connected. -/
theorem new_unique (hvalid : Valid steps) {r' : Nat} (hr : IsNew steps r) (hr' : IsNew steps r')
    (h : (after steps).places[r]? = (after steps).places[r']?) : r = r' := by
  induction steps using List.reverseRecOn with
  | nil => exact absurd hr.lt (Nat.not_lt_zero r)
  | append_singleton steps step ih =>
    obtain ⟨hbefore, -⟩ := valid_concat.mp hvalid
    -- A cache that is made last is at a place that no handle had before.
    rcases isNew_concat.mp hr with hold | ⟨hcreate, rfl⟩ <;>
      rcases isNew_concat.mp hr' with hold' | ⟨hcreate', rfl⟩
    · rw [getElem?_places_after hbefore _ hold.lt, getElem?_places_after hbefore _ hold'.lt] at h
      exact ih hbefore hold hold' h
    · rw [hcreate'] at h
      exact absurd h (place_create_ne hbefore hold.lt)
    · rw [hcreate] at h
      exact absurd h.symm (place_create_ne hbefore hold'.lt)
    · rfl

end

/-! ## What is at a place -/

/-- The cache at a place, which is empty as long as there is none. -/
def cacheAt (s : CacheHandles) (p : Nat) : GroupCache := s.caches.getD p ∅

section

variable {s : CacheHandles} {steps : List CacheStep} {k p q n : Nat} {step : CacheStep}

theorem getD_places (h : s.places[k]? = some p) : s.places.getD k 0 = p := by
  rw [List.getD_eq_getElem?_getD, h, Option.getD_some]

theorem cache_eq (h : s.places[k]? = some p) : s.cache k = s.cacheAt p := by
  unfold cache cacheAt
  rw [getD_places h]

theorem cacheAt_setCache (hk : s.places[k]? = some q) (hq : q < s.caches.length) (c : GroupCache)
    (p : Nat) : (s.setCache k c).cacheAt p = if some q = some p then c else s.cacheAt p := by
  show (s.caches.set (s.places.getD k 0) c).getD p ∅ = _
  rw [getD_places hk, List.getD_eq_getElem?_getD, List.getElem?_set]
  by_cases hqp : q = p
  · subst hqp
    rw [if_pos rfl, if_pos hq, if_pos rfl, Option.getD_some]
  · rw [if_neg hqp, if_neg (by simpa using hqp), cacheAt, List.getD_eq_getElem?_getD]

/-- What a handle holds is what it was given. -/
theorem cache_setCache (hk : s.places[k]? = some q) (hq : q < s.caches.length) (c : GroupCache) :
    (s.setCache k c).cache k = c := by
  have hplace : (s.setCache k c).places[k]? = some q := hk
  rw [cache_eq hplace, cacheAt_setCache hk hq, if_pos rfl]

/-- A step changes the cache at the place of its handle, and no other one. -/
theorem cacheAt_perform (hfits : s.Fits n) (hstep : ∀ k ∈ step.handle?, k < n) (p : Nat) :
    (s.perform step).2.cacheAt p
      = if step.handle?.bind (s.places[·]?) = some p then step.change (s.cacheAt p)
        else s.cacheAt p := by
  have hset {k : Nat} (hk : k < n) (f : GroupCache → GroupCache) :
      (s.setCache k (f (s.cache k))).cacheAt p
        = if s.places[k]? = some p then f (s.cacheAt p) else s.cacheAt p := by
    have hlt : k < s.places.length := hfits.length.symm ▸ hk
    have hplace := List.getElem?_eq_getElem hlt
    rw [cacheAt_setCache hplace (hfits.places _ (List.getElem_mem hlt)), cache_eq hplace, hplace]
    by_cases hp : some s.places[k] = some p
    · rw [if_pos hp, if_pos hp, Option.some.inj hp]
    · rw [if_neg hp, if_neg hp]
  cases step with
  | create =>
    -- The new cache is empty, just as what there was without one.
    show (s.caches ++ [∅]).getD p ∅ = s.caches.getD p ∅
    rcases Nat.lt_trichotomy p s.caches.length with hp | rfl | hp
    · rw [List.getD_eq_getElem?_getD, List.getElem?_append_left hp, List.getD_eq_getElem?_getD]
    · simp [List.getD_eq_getElem?_getD]
    · have hp' : (s.caches ++ [∅]).length ≤ p := by
        rw [List.length_append]
        exact hp
      rw [List.getD_eq_getElem?_getD, List.getElem?_eq_none hp', List.getD_eq_getElem?_getD,
        List.getElem?_eq_none (Nat.le_of_lt hp)]
  | insert k zone groups => exact hset (hstep k rfl) fun c => (c.insert zone groups).2
  | invalidate k zone => exact hset (hstep k rfl) (·.invalidate zone)
  | reset k => exact hset (hstep k rfl) (·.reset)
  | share k => exact (ite_self _).symm
  | get k zone => exact (ite_self _).symm
  | contains k zone => exact (ite_self _).symm

/-- What is at a place is what was first put in by the steps on the handles at this place. Here
`label` tells the places of all handles, also of those that are made later on. -/
theorem tracks_after {label : Nat → Option Nat} (hvalid : Valid steps)
    (hlabel : ∀ k < handleCount steps, (after steps).places[k]? = label k) (p : Nat)
    (zone : String) : Tracks (label · = some p) zone steps ((after steps).cacheAt p) := by
  induction steps using List.reverseRecOn with
  | nil =>
    refine ⟨fun entry => ⟨fun h => absurd h (by simp [after, cacheAt]), ?_⟩, ?_⟩
    · rintro ⟨earlier, step, later, hsplit, -⟩
      exact absurd hsplit (by simp)
    · exact ⟨fun _ earlier step later entry hsplit => absurd hsplit (by simp), fun _ => rfl⟩
  | append_singleton steps step ih =>
    obtain ⟨hbefore, hstep⟩ := valid_concat.mp hvalid
    have hold (k : Nat) (hk : k < handleCount steps) : (after steps).places[k]? = label k := by
      rw [← getElem?_places_after hbefore [step] hk]
      refine hlabel k (Nat.lt_of_lt_of_le hk ?_)
      rw [handleCount_append]
      exact Nat.le_add_right _ _
    -- The cache at `p` is changed exactly by the steps on the handles that are there.
    rw [after_concat, cacheAt_perform (fits_after hbefore) hstep]
    split
    · rename_i hplace
      refine (ih hbefore hold).change fun k hk => ?_
      rw [hk, Option.bind_some, hold k (hstep k hk)] at hplace
      exact hplace
    · rename_i hplace
      have hoff (k : Nat) (hk : k ∈ step.handle?) : label k ≠ some p := by
        rw [hk, Option.bind_some, hold k (hstep k hk)] at hplace
        exact hplace
      refine (ih hbefore hold).skip (fun hremoves => ?_) fun entry hput => ?_
      · obtain ⟨k, hk, hon⟩ := CacheStep.handle?_of_removes hremoves
        exact hoff k hk hon
      · obtain ⟨k, hk, hon⟩ := CacheStep.handle?_of_putsIn hput
        exact hoff k hk hon

end

/-! ## Steps on other caches -/

/-- Nothing but the caches at one place is different. -/
structure AgreeBut (q : Nat) (s s' : CacheHandles) : Prop where
  places : s'.places = s.places
  length : s'.caches.length = s.caches.length
  caches : ∀ p, p ≠ q → s'.cacheAt p = s.cacheAt p

section

variable {s s' : CacheHandles} {n k q : Nat} {step : CacheStep}

/-- What a step does to places and to the number of caches does not depend on what is in these. -/
theorem AgreeBut.perform (h : AgreeBut q s s') (hfits : s.Fits n)
    (hstep : ∀ k ∈ step.handle?, k < n) :
    AgreeBut q (s.perform step).2 (s'.perform step).2 where
  places := by
    cases step <;>
      simp [CacheHandles.perform, create, share, setCache, h.places, h.length]
  length := by
    cases step <;>
      simp [CacheHandles.perform, create, share, setCache, h.length]
  caches p hp := by
    have hfits' : s'.Fits n := ⟨h.places ▸ hfits.length, h.places ▸ h.length ▸ hfits.places⟩
    rw [cacheAt_perform hfits hstep, cacheAt_perform hfits' hstep, h.places, h.caches p hp]

/-- A step that makes no handle matters at the place of its handle only. -/
theorem agreeBut_perform (hfits : s.Fits n) (hmakes : step.makesHandle = false)
    (hhandle : step.handle? = some k) (hk : k < n) (hq : s.places[k]? = some q) :
    AgreeBut q s (s.perform step).2 where
  places := by
    cases step with
    | create | share k => exact absurd hmakes (by simp [CacheStep.makesHandle])
    | _ => rfl
  length := by
    cases step with
    | create | share k => exact absurd hmakes (by simp [CacheStep.makesHandle])
    | _ => simp [CacheHandles.perform, setCache]
  caches p hp := by
    have hstep (j : Nat) (hj : j ∈ step.handle?) : j < n := by
      rw [hhandle] at hj
      exact Option.some.inj hj ▸ hk
    rw [cacheAt_perform hfits hstep, hhandle, Option.bind_some, hq,
      if_neg fun heq => hp (Option.some.inj heq).symm]

/-- Without such a step, a run ends with the same caches at other places. -/
theorem agreeBut_after {before later : List CacheStep}
    (hvalid : Valid (before ++ step :: later)) (hmakes : step.makesHandle = false)
    (hhandle : step.handle? = some k) (hq : (after before).places[k]? = some q) :
    Valid (before ++ later) ∧
      AgreeBut q (after (before ++ later)) (after (before ++ step :: later)) := by
  induction later using List.reverseRecOn with
  | nil =>
    obtain ⟨hbefore, hstep⟩ := valid_concat.mp hvalid
    rw [List.append_nil, after_concat]
    exact ⟨hbefore, agreeBut_perform (fits_after hbefore) hmakes hhandle (hstep k hhandle) hq⟩
  | append_singleton later last ih =>
    rw [← List.cons_append, ← List.append_assoc] at hvalid ⊢
    obtain ⟨hshort, hlast⟩ := valid_concat.mp hvalid
    obtain ⟨hwithout, hagree⟩ := ih hshort
    -- Both runs have made as many handles, so that the last step is possible in the shorter one.
    have hcount : handleCount (before ++ step :: later) = handleCount (before ++ later) := by
      rw [← (fits_after hshort).length, ← (fits_after hwithout).length, hagree.places]
    rw [hcount] at hlast
    rw [← List.append_assoc, after_concat, after_concat]
    exact ⟨valid_concat.mpr ⟨hwithout, hlast⟩, hagree.perform (fits_after hwithout) hlast⟩

end

/-! ## What is seen through a handle -/

section

variable {steps : List CacheStep} {h : Nat}

/-- A handle has a place, and the handles that are connected to it are those with this place. -/
theorem exists_place (hvalid : Valid steps) (hh : h < handleCount steps) :
    ∃ p, (after steps).places[h]? = some p ∧
      ∀ k, Connected steps k h ↔ (after steps).places[k]? = some p := by
  have hlt : h < (after steps).places.length := (fits_after hvalid).length.symm ▸ hh
  have hp := List.getElem?_eq_getElem hlt
  refine ⟨_, hp, fun k => ?_⟩
  rw [connected_iff hvalid hh, hp]

/-- A handle holds what was first put in through the handles that are connected to it. -/
theorem tracks_cache (hvalid : Valid steps) (hh : h < handleCount steps) (zone : String) :
    Tracks (Connected steps · h) zone steps ((after steps).cache h) := by
  obtain ⟨p, hp, hconnected⟩ := exists_place hvalid hh
  have hplaces : (Connected steps · h) = ((after steps).places[·]? = some p) :=
    funext fun k => propext (hconnected k)
  rw [hplaces, cache_eq hp]
  exact tracks_after hvalid (fun _ _ => rfl) p zone

/-- A step that puts an entry in answers what is then seen. -/
theorem get_after_insert (hvalid : Valid steps) (hh : h < handleCount steps) (zone : String)
    (groups : ZoneGroups) : ∃ entry,
      ((after steps).perform (.insert h zone groups)).1 = .entry entry ∧
      (((after steps).perform (.insert h zone groups)).2.perform (.get h zone)).1
        = .found (some entry) := by
  obtain ⟨p, hp, -⟩ := exists_place hvalid hh
  have hlt := (fits_after hvalid).places p (List.mem_of_getElem? hp)
  refine ⟨(((after steps).cache h).insert zone groups).1, rfl, ?_⟩
  show CacheAnswer.found ((((after steps).setCache h _).cache h).get? zone) = _
  rw [cache_setCache hp hlt, GroupCache.get?_insert, if_pos rfl, GroupCache.insert_fst]

/-- Every handle is connected to just one that was made with a cache of its own. -/
theorem existsUnique_new (hvalid : Valid steps) (hh : h < handleCount steps) :
    ∃! r, IsNew steps r ∧ Connected steps r h := by
  obtain ⟨r, hnew, hr⟩ := exists_new hvalid hh
  refine ⟨r, ⟨hnew, hr⟩, fun r' ⟨hnew', hr'⟩ => ?_⟩
  exact new_unique hvalid hnew' hnew ((hr'.place_eq hvalid).trans (hr.place_eq hvalid).symm)

/-- Through a handle one sees the same without a step on another cache. -/
theorem cache_without {before later : List CacheStep} {step : CacheStep} {k : Nat}
    (hvalid : Valid (before ++ step :: later)) (hh : h < handleCount (before ++ step :: later))
    (hmakes : step.makesHandle = false) (hhandle : step.handle? = some k)
    (hk : ¬Connected (before ++ step :: later) k h) :
    (after (before ++ later)).cache h = (after (before ++ step :: later)).cache h := by
  obtain ⟨hbefore, hstep, -⟩ := valid_append.mp hvalid
  obtain ⟨p, hp, hconnected⟩ := exists_place hvalid hh
  obtain ⟨q, hq, -⟩ := exists_place hbefore (hstep k hhandle)
  obtain ⟨-, hagree⟩ := agreeBut_after hvalid hmakes hhandle hq
  have hkept := getElem?_places_after hbefore (step :: later) (hstep k hhandle)
  -- The step is at another place, since its handle is not connected.
  have hne : p ≠ q := by
    rintro rfl
    exact hk ((hconnected k).mpr (hkept.trans hq))
  rw [cache_eq hp, cache_eq (hagree.places ▸ hp), hagree.caches p hne]

end

/-- What is seen through a handle after any run is, for every zone, the first entry that was put in
through a connected handle since the zone was last taken out through one; a step that puts one in
answers what is then seen. Every handle is connected to just one that was made with a cache of its
own, and a step on a handle that is not connected might as well have been left out. An entry has for
each name the id that comes last with it, counts every name once, and has the default groups that
are listed, whether or not they are among the groups. -/
theorem handles_see_first_entries {steps : List CacheStep} (hvalid : Valid steps) {h : Nat}
    (hh : h < handleCount steps) :
    let s := after steps
    (∀ zone, ∃ found, (s.perform (.get h zone)).1 = .found found ∧
      (s.perform (.contains h zone)).1 = .present found.isSome ∧
      (∀ entry, found = some entry ↔ FirstSince (Connected steps · h) zone steps entry) ∧
      (found = none ↔ NoneSince (Connected steps · h) zone steps)) ∧
    (∀ zone groups, ∃ entry, (s.perform (.insert h zone groups)).1 = .entry entry ∧
      ((s.perform (.insert h zone groups)).2.perform (.get h zone)).1 = .found (some entry)) ∧
    ((s.perform .create).1 = .handle (handleCount steps) ∧
      (s.perform (.share h)).1 = .handle (handleCount steps)) ∧
    (∃! r, IsNew steps r ∧ Connected steps r h) ∧
    (∀ before step later k, steps = before ++ step :: later → step.makesHandle = false →
      step.handle? = some k → ¬Connected steps k h →
        (after (before ++ later)).cache h = s.cache h) ∧
    ∀ groups defaults,
      let entry := ZoneGroups.ofLists groups defaults
      (∀ name id, entry.groupId? name = some id ↔
        ∃ earlier later, groups = earlier ++ (name, id) :: later ∧ name ∉ later.map (·.1)) ∧
      entry.size = (groups.map (·.1)).dedup.length ∧
      ∀ name, entry.isDefault name = true ↔ name ∈ defaults := by
  intro s
  have hcount := congrArg CacheAnswer.handle (fits_after hvalid).length
  refine ⟨fun zone => ?sees, get_after_insert hvalid hh, ⟨hcount, hcount⟩,
    existsUnique_new hvalid hh, ?others, fun groups defaults => ?entry⟩
  case sees =>
    have htracks := tracks_cache hvalid hh zone
    exact ⟨(s.cache h).get? zone, rfl, rfl, htracks.some_iff, htracks.none_iff⟩
  case others =>
    rintro before step later k rfl hmakes hhandle hk
    exact cache_without hvalid hh hmakes hhandle hk
  case entry =>
    refine ⟨fun name id => ZoneGroups.groupId?_ofLists, NameMap.size_ofList groups,
      fun name => ?_⟩
    rw [ZoneGroups.isDefault, decide_eq_true_iff]
    exact NameSet.mem_ofList

/-- Two caches, of which the first is held by two handles. An entry is put in through the second of
these, and taken out of the other cache. -/
def sharing : List CacheStep :=
  [.create, .create, .share 0, .insert 2 "z" (.ofLists [("a", "1")] []),
    .insert 0 "z" (.ofLists [("a", "2")] []), .invalidate 1 "z"]

theorem handles_see_first_entries_sharing :
    Valid sharing ∧ 0 < handleCount sharing ∧
    ((after sharing).perform (.get 0 "z")).1 = .found (some (.ofLists [("a", "1")] [])) ∧
    FirstSince (Connected sharing · 0) "z" sharing (.ofLists [("a", "1")] []) := by
  have hvalid : Valid sharing := by
    simp [Valid, sharing, ValidFrom, CacheStep.handle?, CacheStep.makesHandle]
  have hcount : 0 < handleCount sharing := by decide
  obtain ⟨found, hget, -, hsome, -⟩ := (handles_see_first_entries hvalid hcount).1 "z"
  have hfound : (after sharing).perform (.get 0 "z")
      = (.found (some (.ofLists [("a", "1")] [])), after sharing) := rfl
  rw [hfound] at hget ⊢
  exact ⟨hvalid, hcount, rfl, (hsome _).mp (CacheAnswer.found.inj hget).symm⟩

end CacheHandles

end UaaAdmin
