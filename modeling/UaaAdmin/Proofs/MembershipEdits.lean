import Mathlib.Data.List.Basic
import Mathlib.Data.Set.Insert
import UaaAdmin.Proofs.Requests

/-!
# Changes of memberships

A server keeps pairs of a group id and a user id. A request for `/Groups/{g}/members/{u}` is meant
to take a pair away, one for `/Groups/{g}/members` to add one (`Edit.IsAskedBy`). `replay` makes
some changes one after the other, and `HoldsExactly.sync` says that with the right ones a user comes
from its old groups to the new ones.
-/

namespace UaaAdmin

/-! ## Changes of memberships -/

/-- Who is in which group: pairs of a group id and a user id. -/
abbrev Memberships : Type := Set (String × String)

/-- A change of one pair. -/
inductive Edit where
  | remove (groupId userId : String)
  | add (groupId userId : String)
  deriving DecidableEq

namespace Edit

/-- The memberships after a change. -/
def apply (S : Memberships) : Edit → Memberships
  | remove g u => S \ {(g, u)}
  | add g u => insert (g, u) S

/-- The request is made for the change. -/
def IsAskedBy (e : Endpoint) (r : Net.Request) : Edit → Prop
  | remove g u => r.method = .delete ∧ r.url = e.urlOf ("/Groups/" ++ g ++ "/members/" ++ u)
  | add g u => r.method = .post ∧ r.url = e.urlOf ("/Groups/" ++ g ++ "/members") ∧
      ∃ v, r.content = .json v ∧ v.member "value" = .text u

end Edit

/-- The exchanges are made for the changes, one each and in their order. -/
def AreAskedBy (e : Endpoint) : List Edit → List Net.Exchange → Prop :=
  List.Forall₂ fun edit x => edit.IsAskedBy e x.request

/-- The memberships after some changes, one after the other. -/
def replay (edits : List Edit) (S : Memberships) : Memberships := edits.foldl Edit.apply S

theorem replay_append (edits edits' : List Edit) (S : Memberships) :
    replay (edits ++ edits') S = replay edits' (replay edits S) :=
  List.foldl_append ..

/-- Removals for one user take away its pairs with these groups. -/
theorem mem_replay_remove (ids : List String) (u : String) (S : Memberships)
    (p : String × String) :
    p ∈ replay (ids.map (.remove · u)) S ↔ p ∈ S ∧ ¬(p.1 ∈ ids ∧ p.2 = u) := by
  induction ids generalizing S with
  | nil => simp [replay]
  | cons id ids ih =>
    show p ∈ replay (ids.map (.remove · u)) (S \ {(id, u)}) ↔ _
    rw [ih, Set.mem_sdiff, Set.mem_singleton_iff, List.mem_cons, Prod.ext_iff]
    constructor
    · rintro ⟨⟨hS, hne⟩, hids⟩
      refine ⟨hS, ?_⟩
      rintro ⟨hp | hp, hu⟩
      · exact hne ⟨hp, hu⟩
      · exact hids ⟨hp, hu⟩
    · rintro ⟨hS, hids⟩
      exact ⟨⟨hS, fun h => hids ⟨.inl h.1, h.2⟩⟩, fun h => hids ⟨.inr h.1, h.2⟩⟩

/-- Additions for one user add its pairs with these groups. -/
theorem mem_replay_add (ids : List String) (u : String) (S : Memberships) (p : String × String) :
    p ∈ replay (ids.map (.add · u)) S ↔ p ∈ S ∨ p.1 ∈ ids ∧ p.2 = u := by
  induction ids generalizing S with
  | nil => simp [replay]
  | cons id ids ih =>
    show p ∈ replay (ids.map (.add · u)) (insert (id, u) S) ↔ _
    rw [ih, Set.mem_insert_iff, List.mem_cons, Prod.ext_iff, or_and_right, ← or_assoc]
    exact or_congr_left or_comm

/-- Removals and then additions for one user, whatever the order and repetition within each. -/
theorem replay_removals_additions (deleteIds addIds : List String) (u : String)
    (S : Memberships) :
    replay (deleteIds.map (.remove · u) ++ addIds.map (.add · u)) S
      = S \ {p | p.1 ∈ deleteIds ∧ p.2 = u} ∪ {p | p.1 ∈ addIds ∧ p.2 = u} := by
  ext p
  rw [replay_append, mem_replay_add, mem_replay_remove]
  rfl

/-- A pair stays as long as it is not taken away. -/
theorem mem_replay_of_not_mem {edits : List Edit} {S : Memberships} {g u : String}
    (hS : (g, u) ∈ S) (h : .remove g u ∉ edits) : (g, u) ∈ replay edits S := by
  induction edits generalizing S with
  | nil => exact hS
  | cons edit edits ih =>
    rw [List.mem_cons, not_or] at h
    refine ih ?_ h.2
    cases edit with
    | remove g' u' =>
      refine ⟨hS, fun hpair => h.1 ?_⟩
      rw [(Prod.mk.inj hpair).1, (Prod.mk.inj hpair).2]
    | add g' u' => exact Set.mem_insert_of_mem _ hS

/-! ## Groups by their names -/

/-- The pairs of a user with the groups of some names. -/
def pairsOf (id? : String → Option String) (userId : String) (names : List String) : Memberships :=
  {p | (∃ n ∈ names, id? n = some p.1) ∧ p.2 = userId}

/-- Among the groups of the names in `among`, the user is in exactly those of the names in `names`.
-/
def HoldsExactly (S : Memberships) (id? : String → Option String) (userId : String)
    (among names : Set String) : Prop :=
  ∀ n ∈ among, ∀ g, id? n = some g → ((g, userId) ∈ S ↔ n ∈ names)

variable {id? : String → Option String} {u : String}

theorem mem_ids_iff {names ids : List String} (h : names.map id? = ids.map some) (g : String) :
    g ∈ ids ↔ ∃ n ∈ names, id? n = some g := by
  have hids : g ∈ ids ↔ some g ∈ ids.map some := by simp
  rw [hids, ← h, List.mem_map]

theorem isSome_of_ids {names ids : List String} (h : names.map id? = ids.map some) {n : String}
    (hn : n ∈ names) : (id? n).isSome := by
  have hid : id? n ∈ ids.map some := h ▸ List.mem_map_of_mem hn
  obtain ⟨g, -, hg⟩ := List.mem_map.mp hid
  rw [← hg, Option.isSome_some]

theorem setOf_ids (u : String) {names ids : List String} (h : names.map id? = ids.map some) :
    {p : String × String | p.1 ∈ ids ∧ p.2 = u} = pairsOf id? u names := by
  ext p
  exact and_congr_left fun _ => mem_ids_iff h p.1

/-- If ids tell the groups apart, taking away the old groups and adding the new ones, as far as they
differ, leaves the user in exactly the new ones. -/
theorem HoldsExactly.sync {S : Memberships} {old new : NameSet}
    (hinj : ∀ n m g, n ∈ old ∨ n ∈ new → m ∈ old ∨ m ∈ new →
      id? n = some g → id? m = some g → n = m)
    (h : HoldsExactly S id? u {n | n ∈ old ∨ n ∈ new} {n | n ∈ old}) :
    HoldsExactly (S \ pairsOf id? u (old.diff new) ∪ pairsOf id? u (new.diff old)) id? u
      {n | n ∈ old ∨ n ∈ new} {n | n ∈ new} := by
  intro n hn g hg
  have hS : (g, u) ∈ S ↔ n ∈ old := h n hn g hg
  -- A name that puts the pair of `n` into a difference has the id of `n`, and so is `n` itself.
  have hdel : (g, u) ∈ pairsOf id? u (old.diff new) ↔ n ∈ old ∧ n ∉ new := by
    constructor
    · rintro ⟨⟨m, hm, hmg⟩, -⟩
      rw [NameSet.mem_diff] at hm
      rwa [hinj n m g hn (.inl hm.1) hg hmg]
    · exact fun hm => ⟨⟨n, NameSet.mem_diff.mpr hm, hg⟩, rfl⟩
  have hadd : (g, u) ∈ pairsOf id? u (new.diff old) ↔ n ∈ new ∧ n ∉ old := by
    constructor
    · rintro ⟨⟨m, hm, hmg⟩, -⟩
      rw [NameSet.mem_diff] at hm
      rwa [hinj n m g hn (.inr hm.1) hg hmg]
    · exact fun hm => ⟨⟨n, NameSet.mem_diff.mpr hm, hg⟩, rfl⟩
  rw [Set.mem_union, Set.mem_sdiff, hS, hdel, hadd, Set.mem_ofPred_eq]
  tauto

/-- Pairs of other users and of other groups stay as they are. -/
theorem mem_sync_of_not_mem {S : Memberships} {old new : NameSet} {p : String × String}
    (hp : p ∉ pairsOf id? u (old.toList ++ new.toList)) :
    p ∈ S \ pairsOf id? u (old.diff new) ∪ pairsOf id? u (new.diff old) ↔ p ∈ S := by
  have hdel : p ∉ pairsOf id? u (old.diff new) := by
    rintro ⟨⟨n, hn, hid⟩, hu⟩
    exact hp ⟨⟨n, List.mem_append.mpr (.inl (NameSet.mem_diff.mp hn).1), hid⟩, hu⟩
  have hadd : p ∉ pairsOf id? u (new.diff old) := by
    rintro ⟨⟨n, hn, hid⟩, hu⟩
    exact hp ⟨⟨n, List.mem_append.mpr (.inr (NameSet.mem_diff.mp hn).1), hid⟩, hu⟩
  rw [Set.mem_union, Set.mem_sdiff, or_iff_left hadd, and_iff_left hdel]

end UaaAdmin
