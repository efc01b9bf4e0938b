/-!
# IDs for new pups

A pup that is adopted gets an ID that no installed pup has. Where IDs come from is left open: an
`IdSource` is any choice that avoids the IDs in use, and keeps the proof that it does.
`IdSource.ofDraws` makes one from a sequence of draws that never repeats itself, by taking the
first draw that is not in use.
-/

namespace Kennel

/-- A choice of an ID that is not in use. -/
structure IdSource where
  pick : List String → String
  pick_notMem : ∀ used, pick used ∉ used

namespace IdSource

/-- As many distinct draws as are all in a list need that many places in it. -/
theorem le_length_of_draws_mem {draw : Nat → String} (distinct : ∀ i j, draw i = draw j → i = j)
    (n : Nat) (l : List String) (h : ∀ i < n, draw i ∈ l) : n ≤ l.length := by
  induction n generalizing l with
  | zero => exact Nat.zero_le _
  | succ n ih =>
    have hn := h n (Nat.lt_succ_self n)
    have rest : ∀ i < n, draw i ∈ l.erase (draw n) := fun i hi =>
      (List.mem_erase_of_ne fun e => Nat.ne_of_lt hi (distinct i n e)).2
        (h i (Nat.lt_succ_of_lt hi))
    have := ih _ rest
    rw [List.length_erase_of_mem hn] at this
    have := List.length_pos_of_mem hn
    omega

/-- The first of the draws that is not in use. One more draw than there are IDs in use is enough
to find it. -/
def firstUnused (draw : Nat → String) (used : List String) : String :=
  (((List.range (used.length + 1)).map draw).find? (!used.contains ·)).getD ""

theorem firstUnused_notMem {draw : Nat → String} (distinct : ∀ i j, draw i = draw j → i = j)
    (used : List String) : firstUnused draw used ∉ used := by
  unfold firstUnused
  cases h : ((List.range (used.length + 1)).map draw).find? (!used.contains ·) with
  | some id => simpa using List.find?_some h
  | none =>
    have all : ∀ i < used.length + 1, draw i ∈ used := by simpa using h
    have := le_length_of_draws_mem distinct _ _ all
    omega

/-- The source that takes the first unused draw. -/
def ofDraws (draw : Nat → String) (distinct : ∀ i j, draw i = draw j → i = j) : IdSource :=
  ⟨firstUnused draw, firstUnused_notMem distinct⟩

def numbersFrom (start : Nat) : IdSource :=
  ofDraws (fun i => toString (start + i)) fun i j h => by
    have h := congrArg (fun s : String => Nat.ofDigitChars 10 s.toList 0) h
    simp only [Nat.toString_eq_ofList_toDigits, String.toList_ofList,
      Nat.ofDigitChars_ten_toDigits] at h
    omega

instance : Inhabited IdSource := ⟨numbersFrom 0⟩

end IdSource

end Kennel
