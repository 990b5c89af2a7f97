import Mathlib.Data.List.Nodup
import UaaAdmin.Proofs.NameMaps

/-!
# The last entry of each key

Where several entries have one key, a map keeps the last of them, and it keeps the entries in the
order of their keys. `lastOfEach` says this of plain lists, `lastByName` with texts as keys, and
`NameMap.entries_ofList_map` says that it is what a map does.

A list is left as it is exactly if it has at most one entry for each key, in the order of the keys
(`lastOfEach_eq_self_iff`, `lastByName_eq_self_iff`).
-/

namespace UaaAdmin

variable {α β κ : Type} [DecidableEq κ]

/-- The last entry of each of the keys, in the order of the keys. -/
def lastOfEach (key : β → κ) (keys : List κ) (l : List β) : List β :=
  keys.filterMap fun k => l.reverse.find? fun b => key b = k

theorem key_of_find? {key : β → κ} {l : List β} {k : κ} {b : β}
    (h : l.find? (fun b => key b = k) = some b) : key b = k := by
  simpa using List.find?_some h

theorem find?_eq_none_of_not_mem {key : β → κ} {l : List β} {k : κ} (h : k ∉ l.map key) :
    l.find? (fun b => key b = k) = none := by
  rw [List.find?_eq_none]
  intro b hb
  simpa using fun hk : key b = k => h (hk ▸ List.mem_map_of_mem hb)

/-- What is kept has its keys in order. -/
theorem map_lastOfEach_sublist (key : β → κ) (keys : List κ) (l : List β) :
    ((lastOfEach key keys l).map key).Sublist keys := by
  unfold lastOfEach
  induction keys with
  | nil => exact .slnil
  | cons k keys ih =>
    rw [List.filterMap_cons]
    rcases hfind : l.reverse.find? (fun b => key b = k) with _ | b
    · exact .cons k ih
    · dsimp only
      rw [List.map_cons, key_of_find? hfind]
      exact ih.cons_cons k

/-- An entry with a key that is not asked for makes no difference. -/
theorem lastOfEach_cons_of_not_mem {key : β → κ} {keys : List κ} {b : β} (h : key b ∉ keys)
    (l : List β) : lastOfEach key keys (b :: l) = lastOfEach key keys l := by
  unfold lastOfEach
  apply List.filterMap_congr
  intro k hk
  have hne : key b ≠ k := fun hb => h (hb ▸ hk)
  rw [List.reverse_cons, List.find?_append]
  simp [hne]

theorem lastOfEach_of_sublist {key : β → κ} {keys : List κ} (hkeys : keys.Nodup) {l : List β}
    (h : (l.map key).Sublist keys) : lastOfEach key keys l = l := by
  induction keys generalizing l with
  | nil =>
    rw [List.map_eq_nil_iff.mp (List.sublist_nil.mp h)]
    rfl
  | cons k keys ih =>
    rw [List.nodup_cons] at hkeys
    have hnone : ∀ m : List β, (m.map key).Sublist keys →
        m.reverse.find? (fun b => key b = k) = none := by
      intro m hm
      refine find?_eq_none_of_not_mem fun hk => hkeys.1 ?_
      rw [List.map_reverse, List.mem_reverse] at hk
      exact hm.subset hk
    -- Either no entry has the first key, or the first entry alone has it.
    rcases List.sublist_cons_iff.mp h with h | ⟨ks, hl, h⟩
    · show List.filterMap _ (k :: keys) = l
      rw [List.filterMap_cons, hnone l h]
      exact ih hkeys.2 h
    · obtain ⟨b, m, rfl, rfl, rfl⟩ := List.map_eq_cons_iff.mp hl
      have hlast : (b :: m).reverse.find? (fun c => key c = key b) = some b := by
        rw [List.reverse_cons, List.find?_append, hnone m h]
        simp
      show List.filterMap _ (key b :: keys) = b :: m
      rw [List.filterMap_cons, hlast]
      show b :: lastOfEach key keys (b :: m) = b :: m
      rw [lastOfEach_cons_of_not_mem hkeys.1, ih hkeys.2 h]

/-- A list is left as it is if it has at most one entry for each key, in the order of the keys. -/
theorem lastOfEach_eq_self_iff {key : β → κ} {keys : List κ} (hkeys : keys.Nodup) (l : List β) :
    lastOfEach key keys l = l ↔ (l.map key).Sublist keys := by
  refine ⟨fun h => ?_, lastOfEach_of_sublist hkeys⟩
  have hsub := map_lastOfEach_sublist key keys l
  rwa [h] at hsub

/-- Of the entries that are kept, the one with a key is the last one with that key. -/
theorem find?_lastOfEach (key : β → κ) (keys : List κ) (l : List β) (x : κ) :
    (lastOfEach key keys l).find? (fun b => key b = x)
      = if x ∈ keys then l.reverse.find? (fun b => key b = x) else none := by
  unfold lastOfEach
  induction keys with
  | nil => rfl
  | cons k keys ih =>
    rw [List.filterMap_cons]
    by_cases hx : x = k
    · subst hx
      rw [if_pos List.mem_cons_self]
      rcases hfind : l.reverse.find? (fun b => key b = x) with _ | b
      · dsimp only
        rw [ih, hfind, ite_self]
      · dsimp only
        rw [List.find?_cons_of_pos (by simpa using key_of_find? hfind)]
    · -- The entry that is kept for another key does not stand in the way.
      have hmem : x ∈ k :: keys ↔ x ∈ keys := by simp [hx]
      rw [if_congr hmem rfl rfl, ← ih]
      rcases hfind : l.reverse.find? (fun b => key b = k) with _ | b
      · rfl
      · dsimp only
        rw [List.find?_cons_of_neg (by simpa [key_of_find? hfind] using fun hk => hx hk.symm)]

/-! ## Entries with names -/

/-- The last entry of each name, in the order of the names. -/
def lastByName (name : β → String) (l : List β) : List β :=
  lastOfEach name (NameSet.ofList (l.map name)).toList l

/-- The names that are kept ascend. -/
theorem lastByName_ascending (name : β → String) (l : List β) :
    (lastByName name l).Pairwise fun a b => name a < name b := by
  rw [← List.pairwise_map]
  exact (NameSet.ofList (l.map name)).ascending.sublist (map_lastOfEach_sublist ..)

/-- Nothing is dropped or moved just if the names ascend. -/
theorem lastByName_eq_self_iff (name : β → String) (l : List β) :
    lastByName name l = l ↔ l.Pairwise fun a b => name a < name b := by
  constructor
  · intro h
    rw [← h]
    exact lastByName_ascending name l
  · intro h
    have hasc : (l.map name).Pairwise (· < ·) := List.pairwise_map.mpr h
    have hnames : (NameSet.ofList (l.map name)).toList = l.map name :=
      NameSet.eq_of_ascending (NameSet.ofList _).ascending hasc fun _ => NameSet.mem_ofList
    unfold lastByName
    rw [hnames]
    have hnodup : (l.map name).Nodup := by
      refine List.Pairwise.imp ?_ hasc
      rintro a b hlt rfl
      exact String.lt_irrefl a hlt
    exact lastOfEach_of_sublist hnodup (List.Sublist.refl _)

/-- A value is looked up by finding the entry that it comes from. -/
theorem NameMap.lookup_map (key : β → String) (value : β → α) (l : List β) (x : String) :
    (l.map fun b => (key b, value b)).lookup x = (l.find? fun b => key b = x).map value := by
  induction l with
  | nil => rfl
  | cons b l ih =>
    rw [List.map_cons, lookup_cons_eq_ite, ih, List.find?_cons]
    by_cases hx : x = key b
    · simp [hx]
    · simp [hx, Ne.symm hx]

/-- A map keeps the last entry of each name. -/
theorem NameMap.entries_ofList_map (name : β → String) (value : β → α) (l : List β) :
    (NameMap.ofList (l.map fun b => (name b, value b))).entries
      = (lastByName name l).map fun b => (name b, value b) := by
  refine eq_of_lookup (NameMap.ofList _).ascending ?_ fun x => ?_
  · rw [List.pairwise_map]
    exact lastByName_ascending name l
  · -- Both sides look for the last entry, one among all and one among those with a known name.
    have hof := NameMap.get?_ofList (l.map fun b => (name b, value b)) x
    rw [← List.map_reverse, lookup_map] at hof
    rw [lookup_map, lastByName, find?_lastOfEach]
    split
    · exact hof
    · rename_i hx
      have hnone : l.reverse.find? (fun b => name b = x) = none := by
        refine find?_eq_none_of_not_mem fun hmem => hx (NameSet.mem_ofList.mpr ?_)
        rwa [List.map_reverse, List.mem_reverse] at hmem
      rw [hnone] at hof
      exact hof

end UaaAdmin
