/-!
# Blank characters and trimming

The blank characters are those with the Unicode property `White_Space`. Trimming removes runs from
the ends of a text and nothing in between: `dropEndWhile_getLast` says that what is left does not
end in a dropped member, `dropEndWhile_append_dropped` that only a run of them is gone.
-/

namespace UaaAdmin.Text

/-! ## Cutting the ends of a list -/

/-- Drops the longest run at the end of `l` whose members all satisfy `p`. -/
def dropEndWhile {α : Type} (p : α → Bool) (l : List α) : List α :=
  (l.reverse.dropWhile p).reverse

/-- Drops the longest runs at both ends of `l` whose members all satisfy `p`. -/
def dropBothWhile {α : Type} (p : α → Bool) (l : List α) : List α :=
  dropEndWhile p (l.dropWhile p)

@[simp] theorem dropEndWhile_nil {α : Type} (p : α → Bool) : dropEndWhile p [] = [] := rfl

theorem dropEndWhile_concat {α : Type} (p : α → Bool) (l : List α) (a : α) :
    dropEndWhile p (l ++ [a]) = if p a then dropEndWhile p l else l ++ [a] := by
  unfold dropEndWhile
  by_cases h : p a <;> simp [h]

/-- What is left does not end in a member that satisfies `p`. -/
theorem dropEndWhile_getLast {α : Type} (p : α → Bool) (l : List α) (a : α)
    (h : (dropEndWhile p l).getLast? = some a) : p a = false := by
  have hd := List.head?_dropWhile_not p l.reverse
  rw [dropEndWhile, List.getLast?_reverse] at h
  rw [h] at hd
  exact hd

/-- The list is what is left, followed by a run of members that satisfy `p`. -/
theorem dropEndWhile_append_dropped {α : Type} (p : α → Bool) (l : List α) :
    dropEndWhile p l ++ (l.reverse.takeWhile p).reverse = l := by
  rw [dropEndWhile, ← List.reverse_append, List.takeWhile_append_dropWhile, List.reverse_reverse]

theorem dropEndWhile_isPrefix {α : Type} (p : α → Bool) (l : List α) : dropEndWhile p l <+: l :=
  ⟨_, dropEndWhile_append_dropped p l⟩

/-- Nothing is dropped exactly if the list does not end in a member that could be. -/
theorem dropEndWhile_eq_self_iff {α : Type} {p : α → Bool} {l : List α} :
    dropEndWhile p l = l ↔ ∀ a, l.getLast? = some a → p a = false := by
  constructor
  · intro h a ha
    rw [← h] at ha
    exact dropEndWhile_getLast p l a ha
  · intro h
    rcases List.eq_nil_or_concat l with rfl | ⟨front, a, rfl⟩
    · rfl
    · rw [List.concat_eq_append] at h ⊢
      rw [dropEndWhile_concat, h a List.getLast?_concat, if_neg Bool.false_ne_true]

/-! ## Blanks -/

/-- The characters with the Unicode property `White_Space`. -/
def isBlank (c : Char) : Bool :=
  let n := c.toNat
  (0x09 ≤ n && n ≤ 0x0d) || n == 0x20 || n == 0x85 || n == 0xa0 || n == 0x1680
    || (0x2000 ≤ n && n ≤ 0x200a) || n == 0x2028 || n == 0x2029 || n == 0x202f || n == 0x205f
    || n == 0x3000

/-- The text without the blanks at its two ends. -/
def trim (s : String) : String :=
  String.ofList (dropBothWhile isBlank s.toList)

/-- The text without the slashes at its end. -/
def trimEndSlashes (s : String) : String :=
  String.ofList (dropEndWhile (· == '/') s.toList)

/-- True of a text that holds blanks only, or nothing. -/
def allBlank (s : String) : Bool :=
  s.toList.all isBlank

end UaaAdmin.Text
