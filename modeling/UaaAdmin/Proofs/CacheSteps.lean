import Mathlib.Data.List.Induction
import UaaAdmin.GroupCache
import UaaAdmin.Proofs.NameMaps

/-!
# Steps on caches

A run of steps makes handles, and through these puts in, looks up and takes out the entries of
zones. Given some of the handles, the steps on them alone say which entry should be seen for a zone:
the first one that was put in since the zone was last taken out (`FirstSince`), or none if all have
been taken out again (`NoneSince`). A cache that is changed by just these steps has that entry
(`Tracks.change`).
-/

namespace UaaAdmin

/-! ## Entries -/

/-- Of several groups with one name the last one counts. -/
theorem ZoneGroups.groupId?_ofLists {groups : List (String × String)} {defaults : List String}
    {name id : String} : (ofLists groups defaults).groupId? name = some id ↔
      ∃ earlier later, groups = earlier ++ (name, id) :: later ∧ name ∉ later.map (·.1) := by
  unfold groupId? ofLists
  rw [NameMap.get?_ofList, List.lookup_eq_some_iff]
  constructor
  · rintro ⟨later, earlier, hsplit, hlater⟩
    refine ⟨earlier.reverse, later.reverse, ?_, fun hmem => ?_⟩
    · rw [← List.reverse_reverse groups, hsplit]
      simp
    · obtain ⟨pair, hpair, hname⟩ := List.mem_map.mp hmem
      exact absurd hname.symm (by simpa using hlater pair (List.mem_reverse.mp hpair))
  · rintro ⟨earlier, later, rfl, hlater⟩
    refine ⟨later.reverse, earlier.reverse, by simp, fun pair hpair => ?_⟩
    have hne : name ≠ pair.1 := fun hname =>
      hlater (hname ▸ List.mem_map_of_mem (List.mem_reverse.mp hpair))
    simpa using hne

/-! ## Steps -/

/-- What can be done with caches. The handles are numbered in the order in which they are made. -/
inductive CacheStep where
  | create
  | share (handle : Nat)
  | insert (handle : Nat) (zone : String) (groups : ZoneGroups)
  | get (handle : Nat) (zone : String)
  | contains (handle : Nat) (zone : String)
  | invalidate (handle : Nat) (zone : String)
  | reset (handle : Nat)

namespace CacheStep

/-- The handle that the step needs. -/
def handle? : CacheStep → Option Nat
  | create => none
  | share h => some h
  | insert h _ _ => some h
  | get h _ => some h
  | contains h _ => some h
  | invalidate h _ => some h
  | reset h => some h

/-- The step makes a handle. -/
def makesHandle : CacheStep → Bool
  | create => true
  | share _ => true
  | _ => false

/-- What the step makes of the cache that its handle holds. -/
def change : CacheStep → GroupCache → GroupCache
  | insert _ zone groups, c => (c.insert zone groups).2
  | invalidate _ zone, c => c.invalidate zone
  | reset _, c => c.reset
  | _, c => c

end CacheStep

/-- What a step answers. -/
inductive CacheAnswer where
  | handle (number : Nat)
  | entry (groups : ZoneGroups)
  | found (groups? : Option ZoneGroups)
  | present (isThere : Bool)
  | done

namespace CacheHandles

/-- What a step answers, and the handles after it. -/
def perform (s : CacheHandles) : CacheStep → CacheAnswer × CacheHandles
  | .create => (.handle s.create.1, s.create.2)
  | .share h => (.handle (s.share h).1, (s.share h).2)
  | .insert h zone groups =>
    let inserted := (s.cache h).insert zone groups
    (.entry inserted.1, s.setCache h inserted.2)
  | .get h zone => (.found ((s.cache h).get? zone), s)
  | .contains h zone => (.present ((s.cache h).contains zone), s)
  | .invalidate h zone => (.done, s.setCache h ((s.cache h).invalidate zone))
  | .reset h => (.done, s.setCache h (s.cache h).reset)

/-- The handles after some steps, of which there are none before. -/
def after (steps : List CacheStep) : CacheHandles :=
  steps.foldl (fun s step => (s.perform step).2) {}

theorem after_concat (steps : List CacheStep) (step : CacheStep) :
    after (steps ++ [step]) = ((after steps).perform step).2 := by
  unfold after
  rw [List.foldl_append]
  rfl

/-- How many handles some steps make. -/
def handleCount (steps : List CacheStep) : Nat := steps.countP (·.makesHandle)

theorem handleCount_append (steps steps' : List CacheStep) :
    handleCount (steps ++ steps') = handleCount steps + handleCount steps' :=
  List.countP_append

theorem handleCount_concat (steps : List CacheStep) (step : CacheStep) :
    handleCount (steps ++ [step])
      = if step.makesHandle then handleCount steps + 1 else handleCount steps := by
  rw [handleCount_append, handleCount, handleCount, List.countP_singleton]
  split <;> rfl

/-- Every step needs only a handle that there is by then, if there are `n` of them before. -/
def ValidFrom (n : Nat) : List CacheStep → Prop
  | [] => True
  | step :: steps =>
    (∀ k ∈ step.handle?, k < n) ∧ ValidFrom (if step.makesHandle then n + 1 else n) steps

/-- Every step needs only a handle that was made before. -/
def Valid (steps : List CacheStep) : Prop := ValidFrom 0 steps

theorem validFrom_append (n : Nat) (steps steps' : List CacheStep) :
    ValidFrom n (steps ++ steps') ↔
      ValidFrom n steps ∧ ValidFrom (n + handleCount steps) steps' := by
  induction steps generalizing n with
  | nil => exact (and_iff_right trivial).symm
  | cons step steps ih =>
    rw [List.cons_append, ValidFrom, ValidFrom, ih, and_assoc]
    have hcount : n + handleCount (step :: steps)
        = (if step.makesHandle then n + 1 else n) + handleCount steps := by
      unfold handleCount
      rw [List.countP_cons]
      split <;> omega
    rw [hcount]

theorem valid_append {steps steps' : List CacheStep} :
    Valid (steps ++ steps') ↔ Valid steps ∧ ValidFrom (handleCount steps) steps' := by
  unfold Valid
  rw [validFrom_append, Nat.zero_add]

theorem valid_concat {steps : List CacheStep} {step : CacheStep} :
    Valid (steps ++ [step]) ↔ Valid steps ∧ ∀ k ∈ step.handle?, k < handleCount steps := by
  rw [valid_append]
  exact and_congr_right fun _ => and_iff_left trivial

end CacheHandles

/-! ## What should be seen -/

namespace CacheStep

/-- The step takes the zone out, on one of some handles. -/
def Removes (on : Nat → Prop) (zone : String) : CacheStep → Prop
  | invalidate h z => on h ∧ z = zone
  | reset h => on h
  | _ => False

/-- The step puts in an entry for the zone, on one of some handles. -/
def PutsIn (on : Nat → Prop) (zone : String) (entry : ZoneGroups) : CacheStep → Prop
  | insert h z groups => on h ∧ z = zone ∧ groups = entry
  | _ => False

variable {on : Nat → Prop} {zone : String} {step : CacheStep}

theorem handle?_of_removes (h : step.Removes on zone) : ∃ k ∈ step.handle?, on k := by
  cases step with
  | invalidate k z => exact ⟨k, rfl, h.1⟩
  | reset k => exact ⟨k, rfl, h⟩
  | _ => exact h.elim

theorem handle?_of_putsIn {entry : ZoneGroups} (h : step.PutsIn on zone entry) :
    ∃ k ∈ step.handle?, on k := by
  cases step with
  | insert k z groups => exact ⟨k, rfl, h.1⟩
  | _ => exact h.elim

theorem not_putsIn_of_removes {entry : ZoneGroups} (h : step.Removes on zone) :
    ¬step.PutsIn on zone entry := by
  cases step with
  | insert => exact h.elim
  | _ => exact id

end CacheStep

namespace CacheHandles

section

variable (on : Nat → Prop) (zone : String)

/-- Every entry that was put in for the zone on one of some handles has been taken out again. -/
def NoneSince (steps : List CacheStep) : Prop :=
  ∀ earlier step later entry, steps = earlier ++ step :: later → step.PutsIn on zone entry →
    ∃ removal ∈ later, removal.Removes on zone

/-- The entry was put in for the zone on one of some handles when every earlier one had been taken
out, and it has not been taken out since. -/
def FirstSince (steps : List CacheStep) (entry : ZoneGroups) : Prop :=
  ∃ earlier step later, steps = earlier ++ step :: later ∧ step.PutsIn on zone entry ∧
    NoneSince on zone earlier ∧ ∀ removal ∈ later, ¬removal.Removes on zone

end

section

variable {on : Nat → Prop} {zone : String} {steps : List CacheStep} {step : CacheStep}
  {entry : ZoneGroups}

/-- A run that is one step longer is split either at this step or at one before it. -/
theorem concat_eq_append_cons {earlier later : List CacheStep} {x : CacheStep}
    (h : steps ++ [step] = earlier ++ x :: later) :
    (earlier = steps ∧ x = step ∧ later = []) ∨
      ∃ later', later = later' ++ [step] ∧ steps = earlier ++ x :: later' := by
  rcases List.eq_nil_or_concat later with rfl | ⟨later', last, rfl⟩
  · obtain ⟨rfl, hx⟩ := List.append_inj' h rfl
    exact .inl ⟨rfl, (List.singleton_inj.mp hx).symm, rfl⟩
  · rw [List.concat_eq_append, ← List.cons_append, ← List.append_assoc] at h
    obtain ⟨rfl, hlast⟩ := List.append_inj' h rfl
    refine .inr ⟨later', ?_, rfl⟩
    rw [List.concat_eq_append, List.singleton_inj.mp hlast]

theorem noneSince_concat : NoneSince on zone (steps ++ [step]) ↔
    step.Removes on zone ∨ NoneSince on zone steps ∧ ∀ entry, ¬step.PutsIn on zone entry := by
  constructor
  · intro h
    by_cases hremoves : step.Removes on zone
    · exact .inl hremoves
    · refine .inr ⟨fun earlier x later entry hsteps hx => ?_, fun entry hentry => ?_⟩
      · have hsplit : steps ++ [step] = earlier ++ x :: (later ++ [step]) := by simp [hsteps]
        obtain ⟨removal, hmem, hremoval⟩ := h _ _ _ _ hsplit hx
        rcases List.mem_append.mp hmem with hmem | hmem
        · exact ⟨removal, hmem, hremoval⟩
        · obtain rfl := List.mem_singleton.mp hmem
          exact absurd hremoval hremoves
      · obtain ⟨removal, hmem, -⟩ := h steps step [] entry rfl hentry
        exact absurd hmem List.not_mem_nil
  · rintro h earlier x later entry hsplit hx
    rcases concat_eq_append_cons hsplit with ⟨rfl, rfl, rfl⟩ | ⟨later', rfl, hsteps⟩
    -- The last step itself, which does not both take out and put in.
    · rcases h with hremoves | ⟨-, hnone⟩
      · exact absurd hx (CacheStep.not_putsIn_of_removes hremoves)
      · exact absurd hx (hnone entry)
    · rcases h with hremoves | ⟨hsince, -⟩
      · exact ⟨step, List.mem_append_right _ List.mem_cons_self, hremoves⟩
      · obtain ⟨removal, hmem, hremoval⟩ := hsince _ _ _ _ hsteps hx
        exact ⟨removal, List.mem_append_left _ hmem, hremoval⟩

theorem firstSince_concat : FirstSince on zone (steps ++ [step]) entry ↔
    FirstSince on zone steps entry ∧ ¬step.Removes on zone ∨
      step.PutsIn on zone entry ∧ NoneSince on zone steps := by
  constructor
  · rintro ⟨earlier, x, later, hsplit, hx, hsince, hlater⟩
    rcases concat_eq_append_cons hsplit with ⟨rfl, rfl, rfl⟩ | ⟨later', rfl, hsteps⟩
    · exact .inr ⟨hx, hsince⟩
    · refine .inl ⟨⟨earlier, x, later', hsteps, hx, hsince, fun removal hmem => ?_⟩, ?_⟩
      · exact hlater removal (List.mem_append_left _ hmem)
      · exact hlater step (List.mem_append_right _ List.mem_cons_self)
  · rintro (⟨⟨earlier, x, later, rfl, hx, hsince, hlater⟩, hstep⟩ | ⟨hx, hsince⟩)
    · refine ⟨earlier, x, later ++ [step], by simp, hx, hsince, fun removal hmem => ?_⟩
      rcases List.mem_append.mp hmem with hmem | hmem
      · exact hlater removal hmem
      · obtain rfl := List.mem_singleton.mp hmem
        exact hstep
    · exact ⟨steps, step, [], rfl, hx, hsince, by simp⟩

end

/-- What a cache has for a zone is what was first put in by steps on some handles. -/
structure Tracks (on : Nat → Prop) (zone : String) (steps : List CacheStep) (c : GroupCache) :
    Prop where
  some_iff : ∀ entry, c.get? zone = some entry ↔ FirstSince on zone steps entry
  none_iff : c.get? zone = none ↔ NoneSince on zone steps

section

variable {on : Nat → Prop} {zone : String} {steps : List CacheStep} {step : CacheStep}
  {c : GroupCache}

theorem Tracks.congr (h : Tracks on zone steps c) {c' : GroupCache}
    (hget : c'.get? zone = c.get? zone) : Tracks on zone steps c' where
  some_iff entry := by rw [hget, h.some_iff]
  none_iff := by rw [hget, h.none_iff]

/-- A step that neither puts in nor takes out leaves what there is. -/
theorem Tracks.skip (h : Tracks on zone steps c) (hremoves : ¬step.Removes on zone)
    (hputs : ∀ entry, ¬step.PutsIn on zone entry) : Tracks on zone (steps ++ [step]) c where
  some_iff entry := by
    rw [h.some_iff, firstSince_concat, and_iff_left hremoves,
      or_iff_left fun hput => hputs entry hput.1]
  none_iff := by
    rw [h.none_iff, noneSince_concat, or_iff_right hremoves, and_iff_left hputs]

/-- A step that takes the zone out leaves nothing for it. -/
theorem tracks_of_removes (hremoves : step.Removes on zone) (hc : c.get? zone = none) :
    Tracks on zone (steps ++ [step]) c where
  some_iff entry := by
    rw [hc, firstSince_concat]
    refine ⟨fun h => absurd h (by simp), ?_⟩
    rintro (⟨-, hkept⟩ | ⟨hput, -⟩)
    · exact absurd hremoves hkept
    · exact absurd hput (CacheStep.not_putsIn_of_removes hremoves)
  none_iff := by
    rw [noneSince_concat]
    exact ⟨fun _ => .inl hremoves, fun _ => hc⟩

/-- An entry stays if there is one, and else the one that is put in does. -/
theorem Tracks.putIn (h : Tracks on zone steps c) {k : Nat} (hk : on k) (groups : ZoneGroups) :
    Tracks on zone (steps ++ [.insert k zone groups]) (c.insert zone groups).2 where
  some_iff entry := by
    have hput : CacheStep.PutsIn on zone entry (.insert k zone groups) ↔ groups = entry :=
      ⟨fun hput => hput.2.2, fun heq => ⟨hk, rfl, heq⟩⟩
    have hkept : ¬CacheStep.Removes on zone (.insert k zone groups) := id
    rw [GroupCache.get?_insert, if_pos rfl, firstSince_concat, hput, ← h.some_iff, ← h.none_iff,
      and_iff_left hkept]
    rcases c.get? zone with _ | kept <;> simp
  none_iff := by
    rw [GroupCache.get?_insert, if_pos rfl, noneSince_concat]
    refine ⟨fun hnone => absurd hnone (by simp), ?_⟩
    rintro (hremoves | ⟨-, hputs⟩)
    · exact hremoves.elim
    · exact absurd ⟨hk, rfl, rfl⟩ (hputs groups)

/-- What a step on one of the handles makes of the cache. -/
theorem Tracks.change (h : Tracks on zone steps c) (hon : ∀ k ∈ step.handle?, on k) :
    Tracks on zone (steps ++ [step]) (step.change c) := by
  cases step with
  | create | share k | get k z | contains k z => exact h.skip id fun _ => id
  | insert k z groups =>
    by_cases hz : zone = z
    · subst hz
      exact h.putIn (hon k rfl) groups
    · have hother : Tracks on zone (steps ++ [.insert k z groups]) c :=
        h.skip id fun entry hput => hz hput.2.1.symm
      exact hother.congr ((GroupCache.get?_insert c z groups zone).trans (if_neg hz))
  | invalidate k z =>
    by_cases hz : zone = z
    · subst hz
      exact tracks_of_removes ⟨hon k rfl, rfl⟩
        ((GroupCache.get?_invalidate c zone zone).trans (if_pos rfl))
    · have hother : Tracks on zone (steps ++ [.invalidate k z]) c :=
        h.skip (fun hremoves => hz hremoves.2.symm) fun _ => id
      exact hother.congr ((GroupCache.get?_invalidate c z zone).trans (if_neg hz))
  | reset k => exact tracks_of_removes (hon k rfl) (GroupCache.get?_reset c zone)

end

end CacheHandles

end UaaAdmin
