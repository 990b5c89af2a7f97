import UaaAdmin.Json.Parser
import UaaAdmin.Proofs.JsonTokens

/-!
# Reading a printed value

The tokens of a value are taken back to the value (`Json.parseTokens_tokens`). Together with the cut
of a printed value into its tokens this makes printing and reading inverse to each other on values
whose text is exact: `Json.ofText?_print`.
-/

namespace UaaAdmin.Json

/-! ## Tokens to values -/

/-- The tokens of the value are taken to the value, whatever is open around it and whatever follows.
-/
def IsBuilt (v : Json) : Prop :=
  ∀ stack ts, parseTokens ⟨.value, stack⟩ (tokens v ++ ts) = parseTokens ⟨.after v, stack⟩ ts

theorem parseTokens_cons {st st' : ParseState} {t : Token} (h : parseStep st t = some st')
    (ts : List Token) : parseTokens st (t :: ts) = parseTokens st' ts := by
  rw [parseTokens, h, Option.bind_some]

/-- The first token of a value starts a value, and ends nothing. -/
theorem tokens_eq_cons (v : Json) : ∃ t ts, tokens v = t :: ts ∧ t ≠ .closeArray := by
  cases v <;> exact ⟨_, _, rfl, by simp⟩

/-- Behind the opening of an array its first item may come like any other value. -/
theorem parseTokens_itemOrEnd (v : Json) (stack : List Frame) (ts : List Token) :
    parseTokens ⟨.itemOrEnd, stack⟩ (tokens v ++ ts)
      = parseTokens ⟨.value, .array [] :: stack⟩ (tokens v ++ ts) := by
  obtain ⟨t, us, ht, hne⟩ := tokens_eq_cons v
  rw [ht, List.cons_append, parseTokens, parseTokens]
  cases t with
  | closeArray => exact absurd rfl hne
  | _ => rfl

/-- The items of an array that is under way, and its end. -/
theorem parseTokens_itemTokens {items : List Json} (h : ∀ v ∈ items, IsBuilt v)
    (hne : items ≠ []) (before : List Json) (stack : List Frame) (ts : List Token) :
    parseTokens ⟨.value, .array before :: stack⟩ (itemTokens items ++ ts)
      = parseTokens ⟨.after (array (before.reverse ++ items)), stack⟩ ts := by
  -- What was read before is generalized, because every item joins it.
  induction items generalizing before with
  | nil => exact absurd rfl hne
  | cons v vs ih =>
    rw [List.forall_mem_cons] at h
    rcases vs with _ | ⟨w, vs⟩
    · show parseTokens _ ((tokens v ++ [.closeArray]) ++ ts) = _
      rw [List.append_assoc, h.1, List.singleton_append, parseTokens_cons rfl, List.reverse_cons]
    · show parseTokens _ ((tokens v ++ .comma :: itemTokens (w :: vs)) ++ ts) = _
      rw [List.append_assoc, h.1, List.cons_append, parseTokens_cons rfl,
        ih h.2 (List.cons_ne_nil _ _), List.reverse_cons, List.append_assoc, List.singleton_append]

/-- The members of an object as the reader keeps them. -/
def kept (members : List (String × Json)) : List (Option String × Json) :=
  members.map fun m => (some m.1, m.2)

theorem closeObject_kept (members : List (String × Json)) :
    closeObject (kept members).reverse = object members := by
  have hall : ∀ ms : List (String × Json),
      ((kept ms).mapM fun m => m.1.map fun k => (k, m.2)) = some ms := by
    intro ms
    unfold kept
    rw [List.mapM_map]
    show ms.mapM (fun m => pure (id m)) = some ms
    rw [List.mapM_pure, List.map_id]
    rfl
  unfold closeObject
  rw [List.reverse_reverse, hall]

/-- Behind the opening of an object its first key may come like any other. -/
theorem parseTokens_keyOrEnd (m : String × Json) (ms : List (String × Json)) (stack : List Frame)
    (ts : List Token) :
    parseTokens ⟨.keyOrEnd [], stack⟩ (memberTokens (m :: ms) ++ ts)
      = parseTokens ⟨.key [], stack⟩ (memberTokens (m :: ms) ++ ts) := by
  cases ms <;> rfl

/-- The members of an object that is under way, and its end. -/
theorem parseTokens_memberTokens {members : List (String × Json)}
    (h : ∀ m ∈ members, IsBuilt m.2) (hne : members ≠ []) (before : List (String × Json))
    (stack : List Frame) (ts : List Token) :
    parseTokens ⟨.key (kept before).reverse, stack⟩ (memberTokens members ++ ts)
      = parseTokens ⟨.after (object (before ++ members)), stack⟩ ts := by
  induction members generalizing before with
  | nil => exact absurd rfl hne
  | cons m ms ih =>
    obtain ⟨k, v⟩ := m
    rw [List.forall_mem_cons] at h
    have hkept : (some k, v) :: (kept before).reverse = (kept (before ++ [(k, v)])).reverse := by
      simp [kept]
    rcases ms with _ | ⟨m, ms⟩
    · show parseTokens _ (.leaf (text k) :: .colon :: ((tokens v ++ [.closeObject]) ++ ts)) = _
      rw [parseTokens_cons rfl, parseTokens_cons rfl, List.append_assoc, h.1, List.singleton_append,
        parseTokens_cons rfl, hkept, closeObject_kept]
    · show parseTokens _ (.leaf (text k) :: .colon ::
        ((tokens v ++ .comma :: memberTokens (m :: ms)) ++ ts)) = _
      rw [parseTokens_cons rfl, parseTokens_cons rfl, List.append_assoc, h.1, List.cons_append,
        parseTokens_cons rfl, hkept, ih h.2 (List.cons_ne_nil _ _), List.append_assoc,
        List.singleton_append]

/-- The tokens of a value are taken to the value. -/
theorem parseTokens_tokens {v : Json} (hv : IsExact v) : IsBuilt v := by
  induction hv with
  | null => exact fun _ _ => rfl
  | bool b => exact fun _ _ => rfl
  | int _ _ => exact fun _ _ => rfl
  | text s => exact fun _ _ => rfl
  | @array items _ ih =>
    intro stack ts
    show parseTokens _ (.openArray :: (itemTokens items ++ ts)) = _
    rw [parseTokens_cons rfl]
    rcases items with _ | ⟨v, vs⟩
    · rfl
    · -- The reader waits for an item or the end here, and only for an item later on.
      have hfirst : parseTokens ⟨.itemOrEnd, stack⟩ (itemTokens (v :: vs) ++ ts)
          = parseTokens ⟨.value, .array [] :: stack⟩ (itemTokens (v :: vs) ++ ts) := by
        cases vs with
        | nil =>
          show parseTokens _ ((tokens v ++ [.closeArray]) ++ ts) = parseTokens _ ((_ ++ _) ++ ts)
          rw [List.append_assoc, parseTokens_itemOrEnd]
        | cons w vs =>
          show parseTokens _ ((tokens v ++ .comma :: itemTokens (w :: vs)) ++ ts)
            = parseTokens _ ((_ ++ _) ++ ts)
          rw [List.append_assoc, parseTokens_itemOrEnd]
      exact hfirst.trans (parseTokens_itemTokens ih (List.cons_ne_nil _ _) [] stack ts)
  | @object members _ ih =>
    intro stack ts
    show parseTokens _ (.openObject :: (memberTokens members ++ ts)) = _
    rw [parseTokens_cons rfl]
    rcases members with _ | ⟨m, ms⟩
    · rfl
    · rw [parseTokens_keyOrEnd]
      exact parseTokens_memberTokens ih (List.cons_ne_nil _ _) [] stack ts

/-! ## Texts -/

/-- Reading undoes printing. -/
theorem ofText?_print {v : Json} (hv : IsExact v) : ofText? (print v) = some v := by
  have hscan : scan ((printChars v).map some) = some (tokens v) := by
    have hcut := scanFrom_printChars hv [] trivial
    rw [List.append_nil] at hcut
    rw [scan, hcut]
    show some (tokens v ++ []) = _
    rw [List.append_nil]
  have hparse : parseTokens ⟨.value, []⟩ (tokens v) = some ⟨.after v, []⟩ := by
    have hbuilt := parseTokens_tokens hv [] []
    rwa [List.append_nil] at hbuilt
  unfold ofText? parse? print
  rw [String.toList_ofList, hscan, Option.bind_some, ofTokens?, hparse]

end UaaAdmin.Json
