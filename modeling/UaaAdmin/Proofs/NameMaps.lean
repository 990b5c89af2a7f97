import Mathlib.Data.List.Dedup
import UaaAdmin.NameMap

/-!
# Maps from names, by their look-ups

A map is determined by its look-ups (`NameMap.ext`), because its entries are in the order of their
keys. So a map is the same as the map of its entries (`NameMap.ofList_entries`), and the map of a
list has as many entries as there are different keys in the list (`NameMap.size_ofList`).
-/

namespace UaaAdmin.NameMap

variable {α : Type}

/-- Keys in front of an entry come before its key, so nothing behind it has that key. -/
theorem lookup_eq_none_of_lt {l : List (String × α)} {x : String} (h : ∀ e ∈ l, x < e.1) :
    l.lookup x = none := by
  rw [List.lookup_eq_none_iff]
  intro e he
  simpa using fun hxe : x = e.1 => String.lt_irrefl x (hxe ▸ h e he)

/-- In a list with ascending keys the entries of a key may be looked for from either end. -/
theorem lookup_reverse_of_ascending {l : List (String × α)} (h : l.Pairwise fun a b => a.1 < b.1)
    (x : String) : l.reverse.lookup x = l.lookup x := by
  induction l with
  | nil => rfl
  | cons e es ih =>
    obtain ⟨k, v⟩ := e
    rw [List.pairwise_cons] at h
    rw [List.reverse_cons, List.lookup_append, ih h.2, lookup_cons_eq_ite, lookup_cons_eq_ite]
    by_cases hx : x = k
    · subst hx
      rw [lookup_eq_none_of_lt h.1, if_pos rfl, if_pos rfl, Option.none_or]
    · rw [if_neg hx, if_neg hx, List.lookup_nil, Option.or_none]

/-- Lists with ascending keys and the same look-ups are equal. -/
theorem eq_of_lookup : ∀ {l m : List (String × α)}, (l.Pairwise fun a b => a.1 < b.1) →
    (m.Pairwise fun a b => a.1 < b.1) → (∀ x, l.lookup x = m.lookup x) → l = m
  | [], [], _, _, _ => rfl
  | [], (k, v) :: _, _, _, h => by
    have hk := h k
    rw [lookup_cons_eq_ite, if_pos rfl] at hk
    exact absurd hk (by simp)
  | (k, v) :: _, [], _, _, h => by
    have hk := h k
    rw [lookup_cons_eq_ite, if_pos rfl] at hk
    exact absurd hk (by simp)
  | (k, v) :: l, (k', v') :: m, hl, hm, h => by
    rw [List.pairwise_cons] at hl hm
    have hkey : k = k' := by
      -- The smaller of two different first keys could not be found on the other side.
      rcases Decidable.em (k < k') with hlt | hlt
      · have hnone := lookup_eq_none_of_lt (List.forall_mem_cons.mpr
          ⟨hlt, fun e he => String.lt_trans hlt (hm.1 e he)⟩ : ∀ e ∈ (k', v') :: m, k < e.1)
        rw [← h, lookup_cons_eq_ite, if_pos rfl] at hnone
        exact absurd hnone (by simp)
      · by_cases heq : k = k'
        · exact heq
        · have hlt' := NameSet.lt_of_not_lt_of_ne hlt heq
          have hnone := lookup_eq_none_of_lt (List.forall_mem_cons.mpr
            ⟨hlt', fun e he => String.lt_trans hlt' (hl.1 e he)⟩ : ∀ e ∈ (k, v) :: l, k' < e.1)
          rw [h, lookup_cons_eq_ite, if_pos rfl] at hnone
          exact absurd hnone (by simp)
    subst hkey
    have hvalue := h k
    rw [lookup_cons_eq_ite, lookup_cons_eq_ite, if_pos rfl, if_pos rfl] at hvalue
    obtain rfl := Option.some.inj hvalue
    have htail : l = m := eq_of_lookup hl.2 hm.2 fun x => by
      by_cases hx : x = k
      · subst hx
        rw [lookup_eq_none_of_lt hl.1, lookup_eq_none_of_lt hm.1]
      · have hx' := h x
        rwa [lookup_cons_eq_ite, lookup_cons_eq_ite, if_neg hx, if_neg hx] at hx'
    rw [htail]

/-- Maps with the same look-ups are equal. -/
theorem ext {m m' : NameMap α} (h : ∀ x, m.get? x = m'.get? x) : m = m' := by
  cases m; cases m'
  congr
  exact eq_of_lookup ‹_› ‹_› h

/-- A map put over another one counts where it has an entry. -/
theorem get?_insertMany_entries (m m' : NameMap α) (x : String) :
    (m.insertMany m'.entries).get? x = (m'.get? x).or (m.get? x) := by
  rw [get?_insertMany, lookup_reverse_of_ascending m'.ascending]
  rfl

theorem get?_eq_some_iff {m : NameMap α} {x : String} {v : α} :
    m.get? x = some v ↔ (x, v) ∈ m.entries := by
  unfold get?
  rw [List.lookup_eq_some_iff]
  constructor
  · rintro ⟨before, after, hentries, -⟩
    rw [hentries]
    simp
  · intro h
    obtain ⟨before, after, hentries⟩ := List.append_of_mem h
    refine ⟨before, after, hentries, fun e he => ?_⟩
    have hasc := m.ascending
    rw [hentries, List.pairwise_append] at hasc
    have hlt : e.1 < x := hasc.2.2 e he (x, v) List.mem_cons_self
    simpa using fun hxe : x = e.1 => String.lt_irrefl x (hxe ▸ hlt)

/-- The first entry with a property has the least key that has one. -/
theorem first_of_find? {m : NameMap α} {p : String × α → Bool} {e : String × α}
    (h : m.entries.find? p = some e) :
    m.get? e.1 = some e.2 ∧ p e = true ∧
      ∀ x v, m.get? x = some v → x < e.1 → p (x, v) = false := by
  obtain ⟨hp, before, after, hentries, hbefore⟩ := List.find?_eq_some_iff_append.mp h
  refine ⟨get?_eq_some_iff.mpr (List.mem_of_find?_eq_some h), hp, fun x v hv hlt => ?_⟩
  have hasc := m.ascending
  rw [hentries, List.pairwise_append, List.pairwise_cons] at hasc
  have hmem := get?_eq_some_iff.mp hv
  rw [hentries, List.mem_append, List.mem_cons] at hmem
  rcases hmem with hmem | rfl | hmem
  · simpa using hbefore (x, v) hmem
  · exact absurd hlt (String.lt_irrefl _)
  · exact absurd hlt (String.lt_asymm (hasc.2.1.1 (x, v) hmem))

theorem ofList_entries (m : NameMap α) : ofList m.entries = m := by
  apply ext
  intro x
  rw [get?_ofList, lookup_reverse_of_ascending m.ascending]
  rfl

theorem mem_keys_iff {m : NameMap α} {x : String} : x ∈ m.keys ↔ (m.get? x).isSome := by
  rw [keys, List.mem_map, Option.isSome_iff_exists]
  constructor
  · rintro ⟨⟨k, v⟩, hmem, rfl⟩
    exact ⟨v, get?_eq_some_iff.mpr hmem⟩
  · rintro ⟨v, hv⟩
    exact ⟨(x, v), get?_eq_some_iff.mp hv, rfl⟩

theorem nodup_keys (m : NameMap α) : m.keys.Nodup := by
  refine List.Pairwise.map _ (fun a b hab heq => ?_) m.ascending
  exact String.lt_irrefl a.1 (heq ▸ hab)

/-- The map of a list has as many entries as there are different keys in the list. -/
theorem size_ofList (l : List (String × α)) : (ofList l).size = (l.map (·.1)).dedup.length := by
  have hkeys : (ofList l).keys.Perm (l.map (·.1)).dedup := by
    rw [List.perm_ext_iff_of_nodup (nodup_keys _) (List.nodup_dedup _)]
    intro x
    rw [mem_keys_iff, get?_ofList, List.mem_dedup, List.mem_map, Option.isSome_iff_ne_none, Ne,
      List.lookup_eq_none_iff]
    simp
  rw [← hkeys.length_eq, keys, List.length_map, size]

end UaaAdmin.NameMap
