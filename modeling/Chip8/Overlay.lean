/-!
# Writing a list over a vector

Programs, the font and stored registers all enter memory the same way: a list of values replaces the
entries from some place on. `overlay` does this, and `getElem_overlay` says what every entry holds
afterwards.
-/

namespace Chip8

/-- The vector whose entries from `start` on are replaced by the values of a list. What would lie
past the end of the vector is left out. -/
def overlay {α : Type} {n : Nat} (v : Vector α n) (start : Nat) : List α → Vector α n
  | [] => v
  | a :: as => overlay (v.setIfInBounds start a) (start + 1) as

@[simp] theorem overlay_nil {α : Type} {n : Nat} (v : Vector α n) (start : Nat) :
    overlay v start [] = v := rfl

/-- An overlay of values holds, at each of the places it covers, the value for that place, and
changes no other place. -/
theorem getElem_overlay {α : Type} {n : Nat} (v : Vector α n) (start : Nat) (as : List α)
    (i : Nat) (hi : i < n) :
    (overlay v start as)[i] =
      if h : start ≤ i ∧ i < start + as.length then as[i - start] else v[i] := by
  induction as generalizing v start with
  | nil =>
    rw [dif_neg (by simp only [List.length_nil]; omega), overlay_nil]
  | cons a as ih =>
    rw [overlay, ih, Vector.getElem_setIfInBounds]
    by_cases h : start = i
    · subst h
      rw [dif_neg (by omega), dif_pos (by simp)]
      simp
    · by_cases h' : start + 1 ≤ i ∧ i < start + 1 + as.length
      · have hc : start ≤ i ∧ i < start + (a :: as).length := by
          simp only [List.length_cons]
          omega
        rw [dif_pos h', dif_pos hc]
        have : i - start = (i - (start + 1)) + 1 := by omega
        simp only [this, List.getElem_cons_succ]
      · have hc : ¬ (start ≤ i ∧ i < start + (a :: as).length) := by
          simp only [List.length_cons]
          omega
        rw [dif_neg h', dif_neg hc, if_neg h]

end Chip8
