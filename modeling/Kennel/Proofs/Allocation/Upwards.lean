import Mathlib.Order.Bounds.Basic
import Kennel.Proofs.Allocation.Fresh

/-!
# Addresses are handed out upwards

An allocator over records starts at the highest of the base of its range and the addresses of the
records. From there it hands out one address after another up to the ceiling; then every attempt
fails, and the mark stays where it is (`attempts_eq`). The mark is never lowered, whatever address is
committed.

**So the addresses between the start and the ceiling are handed out once each, in ascending order,
and nothing else is** (`addresses_handed_out_upwards`). If the start lies at the ceiling or above it,
or at the highest address there is, nothing is handed out at all.
-/

namespace Kennel

/-- The address of a number; numbers are counted modulo the number of addresses. -/
def Address.ofNumber (n : Nat) : Address := ⟨UInt32.ofNat n⟩

theorem Address.number_ofNumber {n : Nat} (h : n < 2 ^ 32) : (ofNumber n).number = n := by
  rw [number_eq]
  exact UInt32.toNat_ofNat_of_lt h

theorem Address.ofNumber_number (a : Address) : ofNumber a.number = a :=
  number_injective (number_ofNumber a.number_lt)

theorem Address.le_iff_number {a b : Address} : a ≤ b ↔ a.number ≤ b.number := by
  rw [le_iff, number_eq, number_eq]

theorem Address.lt_iff_number {a b : Address} : a < b ↔ a.number < b.number := by
  rw [lt_iff, number_eq, number_eq]

namespace Allocator

/-! ## Where an allocator starts -/

/-- The mark of an allocator over records is the base or the address of a record. -/
theorem foldl_max_mem (records : List Record) (mark : Address) :
    records.foldl (fun mark r => mark.max r.address) mark = mark ∨
      ∃ r ∈ records, r.address = records.foldl (fun mark r => mark.max r.address) mark := by
  induction records generalizing mark with
  | nil => exact .inl rfl
  | cons s records ih =>
    rcases ih (mark.max s.address) with same | ⟨r, member, same⟩
    · rw [List.foldl_cons, same, Address.max]
      split
      · exact .inr ⟨s, List.mem_cons_self, rfl⟩
      · exact .inl rfl
    · exact .inr ⟨r, List.mem_cons_of_mem _ member, same⟩

/-- **An allocator starts at the highest of the base and the addresses of the records.** -/
theorem isGreatest_mark_ofRecords (range : AllocationRange) (records : List Record) :
    IsGreatest (insert range.base.number {n | ∃ r ∈ records, r.address.number = n})
      (ofRecords range records).mark.number := by
  constructor
  · rcases foldl_max_mem records range.base with same | ⟨r, member, same⟩
    · exact .inl (congrArg Address.number same)
    · exact .inr ⟨r, member, congrArg Address.number same⟩
  · rintro n (rfl | ⟨r, member, rfl⟩)
    · exact Address.le_iff_number.1 (base_le_mark_ofRecords range records)
    · exact Address.le_iff_number.1 (le_mark_ofRecords range member)

/-! ## One attempt -/

/-- An attempt to hand out an address: the address is committed, if there is one. -/
def attempt (a : Allocator) : Except AllocationError Address × Allocator :=
  match a.nextAddress with
  | .ok next => (.ok next, a.commit next)
  | .error e => (.error e, a)

/-- How many addresses are left. -/
def left (a : Allocator) : Nat := a.range.ceiling.number - a.mark.number

/-- **The next address is that of the next number**, if it does not lie above the ceiling. -/
theorem nextAddress_eq (a : Allocator) :
    a.nextAddress = if a.left = 0 then .error (.addressesExhausted a.mark a.range.ceiling)
      else .ok (.ofNumber (a.mark.number + 1)) := by
  have top := a.range.ceiling.number_lt
  unfold nextAddress left
  cases next : a.mark.next? with
  | none =>
    have last := Address.next?_eq_none_iff.1 next
    rw [if_pos (by omega)]
  | some b =>
    have number := Address.next?_eq_some_iff.1 next
    simp only [Address.le_iff_number, number]
    split
    · next below =>
      rw [if_neg (by omega), ← number, Address.ofNumber_number]
    · next above =>
      rw [if_pos (by omega)]

/-- The committed address becomes the mark, if it is higher. -/
theorem commit_of_lt {a : Allocator} {handed : Address} (h : a.mark < handed) :
    a.commit handed = { a with mark := handed } := by
  rw [commit, Address.max, if_pos h]

/-- No committed address lowers the mark. -/
theorem le_mark_foldl_commit (a : Allocator) (handed : List Address) :
    a.mark ≤ (handed.foldl commit a).mark := by
  induction handed generalizing a with
  | nil => exact Address.le_iff.2 (Nat.le_refl _)
  | cons address handed ih => exact Address.le_trans (Address.le_max_left _ _) (ih (a.commit address))

/-- An attempt fails if no address is left. -/
theorem attempt_of_none_left {a : Allocator} (exhausted : a.left = 0) :
    a.attempt = (.error (.addressesExhausted a.mark a.range.ceiling), a) := by
  unfold attempt
  rw [nextAddress_eq, if_pos exhausted]

/-- An attempt hands out the address of the next number, and one address fewer is left. -/
theorem attempt_of_left {a : Allocator} {rest : Nat} (remain : a.left = rest + 1) :
    ∃ after : Allocator, a.attempt = (.ok (.ofNumber (a.mark.number + 1)), after) ∧
      after.range = a.range ∧ after.mark.number = a.mark.number + 1 ∧ after.left = rest := by
  have top := a.range.ceiling.number_lt
  have number : (Address.ofNumber (a.mark.number + 1)).number = a.mark.number + 1 := by
    unfold left at remain
    exact Address.number_ofNumber (by omega)
  have higher : a.mark < .ofNumber (a.mark.number + 1) := by
    rw [Address.lt_iff_number, number]
    exact Nat.lt_succ_self _
  refine ⟨{ a with mark := .ofNumber (a.mark.number + 1) }, ?_, rfl, number, ?_⟩
  · unfold attempt
    rw [nextAddress_eq, if_neg (by omega)]
    simp only [commit_of_lt higher]
  · unfold left at remain ⊢
    rw [number]
    show a.range.ceiling.number - (a.mark.number + 1) = rest
    omega

/-! ## Any number of attempts -/

/-- Attempts one after another: what each of them ends with, and the allocator after them. -/
def attempts (a : Allocator) : Nat → List (Except AllocationError Address) × Allocator
  | 0 => ([], a)
  | n + 1 => (a.attempt.1 :: (a.attempt.2.attempts n).1, (a.attempt.2.attempts n).2)

/-- **Attempts hand out the addresses that are left, in ascending order, and fail from then on.** The
mark ends at the last address handed out. -/
theorem attempts_eq (a : Allocator) (n : Nat) :
    a.attempts n =
      ((List.range' (a.mark.number + 1) (min n a.left)).map (fun x => .ok (.ofNumber x)) ++
          List.replicate (n - a.left)
            (.error (.addressesExhausted (.ofNumber (a.mark.number + a.left)) a.range.ceiling)),
        { a with mark := .ofNumber (a.mark.number + min n a.left) }) := by
  induction n generalizing a with
  | zero => simp [attempts, Address.ofNumber_number]
  | succ n ih =>
    cases left : a.left with
    | zero =>
      simp [attempts, attempt_of_none_left left, ih, left, Address.ofNumber_number,
        List.replicate_succ]
    | succ rest =>
      obtain ⟨after, attempted, range, mark, fewer⟩ := attempt_of_left left
      have higher (k : Nat) : a.mark.number + 1 + k = a.mark.number + (k + 1) := by omega
      simp only [attempts, attempted, ih, range, mark, fewer, higher, Nat.add_min_add_right,
        Nat.add_sub_add_right, List.range'_succ, List.map_cons, List.cons_append]

end Allocator

/-- **Addresses are handed out upwards.** An allocator over records starts at the highest number of
the base and the addresses of the records. Any number of attempts hand out the addresses of the
numbers after that, up to the ceiling, once each and in this order; from then on every attempt finds
that there are none left, and leaves the mark where it is. No address of a record is handed out, and
no committed address lowers the mark of an allocator. -/
theorem addresses_handed_out_upwards (range : AllocationRange) (records : List Record) :
    let start := Allocator.ofRecords range records
    IsGreatest (insert range.base.number {n | ∃ r ∈ records, r.address.number = n})
        start.mark.number ∧
      (∀ n, start.attempts n =
        ((List.range' (start.mark.number + 1)
              (min n (range.ceiling.number - start.mark.number))).map (fun x => .ok (.ofNumber x)) ++
            List.replicate (n - (range.ceiling.number - start.mark.number))
              (.error (.addressesExhausted (.ofNumber (max start.mark.number range.ceiling.number))
                range.ceiling)),
          ⟨range, .ofNumber
            (start.mark.number + min n (range.ceiling.number - start.mark.number))⟩)) ∧
      (∀ n, ∀ r ∈ records, .ok r.address ∉ (start.attempts n).1) ∧
      ∀ (a : Allocator) (handed : List Address), a.mark ≤ (handed.foldl Allocator.commit a).mark := by
  intro start
  have greatest := Allocator.isGreatest_mark_ofRecords range records
  have attempts (n : Nat) := start.attempts_eq n
  have left : start.left = range.ceiling.number - start.mark.number := rfl
  have last : start.mark.number + start.left = max start.mark.number range.ceiling.number := by
    omega
  refine ⟨greatest, fun n => ?_, fun n r member => ?_, Allocator.le_mark_foldl_commit⟩
  · rw [attempts n, last, left]
    rfl
  · have below : r.address.number ≤ start.mark.number := greatest.2 (.inr ⟨r, member, rfl⟩)
    have top := range.ceiling.number_lt
    rw [attempts n, List.mem_append, not_or]
    refine ⟨fun handed => ?_, fun failed => nomatch List.eq_of_mem_replicate failed⟩
    obtain ⟨x, listed, same⟩ := List.mem_map.1 handed
    obtain ⟨low, high⟩ := List.mem_range'_1.1 listed
    have number : r.address.number = x := by
      rw [← Except.ok.inj same]
      exact Address.number_ofNumber (by omega)
    omega

/-- A record with an address in the middle of the range, and one below the range. -/
def scatteredRecords : List Record :=
  [{ (default : Record) with address := .ofOctets 10 69 0 254 },
    { (default : Record) with address := .ofOctets 10 0 0 9 }]

/-- After these records three addresses are left up to 10.69.1.1, and they carry into an octet. -/
theorem addresses_handed_out_upwards_carrying :
    let start := Allocator.ofRecords { ceiling := .ofOctets 10 69 1 1 } scatteredRecords
    (start.attempts 4).1 =
        [.ok (.ofOctets 10 69 0 255), .ok (.ofOctets 10 69 1 0), .ok (.ofOctets 10 69 1 1),
          .error (.addressesExhausted (.ofOctets 10 69 1 1) (.ofOctets 10 69 1 1))] ∧
      ∀ r ∈ scatteredRecords, .ok r.address ∉ (start.attempts 4).1 := by
  intro start
  obtain ⟨-, attempts, unheld, -⟩ :=
    addresses_handed_out_upwards { ceiling := .ofOctets 10 69 1 1 } scatteredRecords
  refine ⟨?_, unheld 4⟩
  rw [show start.attempts 4 = _ from attempts 4]
  decide +kernel

end Kennel
