import Kennel.Proofs.Allocation.Scan
import Kennel.Proofs.Net.Successor

/-!
# What is handed out is new

The next address lies above the mark, and the mark lies above every address that was handed out, so
the next address is none of them. The ports for web interfaces are distinct and none of them is
taken; and a manifest passes the check of its own ports of the host only if they are distinct and no
record binds one of them.
-/

namespace Kennel

/-! ## Addresses -/

namespace Address

theorem lt_iff {a b : Address} : a < b ↔ a.bits.toNat < b.bits.toNat := Iff.rfl

theorem le_iff {a b : Address} : a ≤ b ↔ a.bits.toNat ≤ b.bits.toNat := Iff.rfl

theorem le_max_left (a b : Address) : a ≤ a.max b := by
  unfold max
  split
  · next h => exact le_iff.2 (Nat.le_of_lt (lt_iff.1 h))
  · exact le_iff.2 (Nat.le_refl _)

theorem le_max_right (a b : Address) : b ≤ a.max b := by
  unfold max
  split
  · exact le_iff.2 (Nat.le_refl _)
  · next h => exact le_iff.2 (Nat.le_of_not_lt fun h' => h (lt_iff.2 h'))

theorem le_trans {a b c : Address} (hab : a ≤ b) (hbc : b ≤ c) : a ≤ c :=
  le_iff.2 (Nat.le_trans (le_iff.1 hab) (le_iff.1 hbc))

/-- An address below a mark is none above it. -/
theorem ne_of_le_of_lt {a mark b : Address} (ha : a ≤ mark) (hb : mark < b) : a ≠ b := by
  rintro rfl
  exact Nat.lt_irrefl _ (Nat.lt_of_le_of_lt (le_iff.1 ha) (lt_iff.1 hb))

/-- The next address is greater. -/
theorem lt_of_next? {a b : Address} (h : a.next? = some b) : a < b := by
  rw [lt_iff, ← number_eq, ← number_eq, next?_eq_some_iff.1 h]
  exact Nat.lt_succ_self _

end Address

/-- Records in the order of their addresses. -/
theorem Record.pairwise_sortByAddress (records : List Record) :
    (Record.sortByAddress records).Pairwise fun a b => a.address ≤ b.address := by
  refine (List.pairwise_mergeSort (fun a b c hab hbc => ?_) (fun a b => ?_) records).imp
    fun h => of_decide_eq_true h
  · exact decide_eq_true (Address.le_trans (of_decide_eq_true hab) (of_decide_eq_true hbc))
  · rw [Bool.or_eq_true, decide_eq_true_eq, decide_eq_true_eq]
    exact Nat.le_total _ _

namespace Allocator

/-- The address that the next adoption gets lies above the mark. -/
theorem lt_of_nextAddress {a : Allocator} {next : Address} (h : a.nextAddress = .ok next) :
    a.mark < next := by
  unfold nextAddress at h
  split at h
  · next b hb =>
    split at h
    · cases h
      exact Address.lt_of_next? hb
    · cases h
  · cases h

/-- No address above the ceiling is handed out. -/
theorem le_ceiling_of_nextAddress {a : Allocator} {next : Address} (h : a.nextAddress = .ok next) :
    next ≤ a.range.ceiling := by
  unfold nextAddress at h
  split at h
  · split at h
    · next below =>
      cases h
      exact below
    · cases h
  · cases h

/-- The highest of a mark and the addresses of records lies above all of them. -/
theorem le_foldl_max (records : List Record) (mark : Address) :
    mark ≤ records.foldl (fun mark r => mark.max r.address) mark ∧
      ∀ r ∈ records, r.address ≤ records.foldl (fun mark r => mark.max r.address) mark := by
  induction records generalizing mark with
  | nil => exact ⟨Address.le_iff.2 (Nat.le_refl _), fun r hr => by cases hr⟩
  | cons s records ih =>
    obtain ⟨above, each⟩ := ih (mark.max s.address)
    refine ⟨Address.le_trans (Address.le_max_left _ _) above, fun r hr => ?_⟩
    rcases List.mem_cons.1 hr with rfl | hr
    · exact Address.le_trans (Address.le_max_right _ _) above
    · exact each r hr

/-- The mark of the allocator over records lies above all of their addresses. -/
theorem le_mark_ofRecords (range : AllocationRange) {records : List Record} {r : Record}
    (hr : r ∈ records) : r.address ≤ (ofRecords range records).mark :=
  (le_foldl_max records range.base).2 r hr

theorem base_le_mark_ofRecords (range : AllocationRange) (records : List Record) :
    range.base ≤ (ofRecords range records).mark :=
  (le_foldl_max records range.base).1

end Allocator

/-! ## Ports -/

/-- No entry stands again in a list exactly if nothing is repeated in it. -/
theorem firstRepeated_eq_none_iff {seen ports : List Port} :
    firstRepeated seen ports = none ↔ ports.Nodup ∧ ∀ p ∈ ports, p ∉ seen := by
  induction ports generalizing seen with
  | nil => simp [firstRepeated]
  | cons q ports ih =>
    rw [firstRepeated, List.nodup_cons, List.forall_mem_cons]
    by_cases again : q ∈ seen
    · rw [if_pos (by simpa using again)]
      exact ⟨nofun, fun ⟨_, apart, _⟩ => absurd again apart⟩
    · rw [if_neg (by simpa using again), ih]
      constructor
      · rintro ⟨nodup, apart⟩
        exact ⟨⟨fun hq => apart q hq List.mem_cons_self, nodup⟩, again,
          fun p hp hs => apart p hp (List.mem_cons_of_mem _ hs)⟩
      · rintro ⟨⟨fresh, nodup⟩, -, apart⟩
        refine ⟨nodup, fun p hp hs => ?_⟩
        rcases List.mem_cons.1 hs with rfl | hs
        · exact fresh hp
        · exact apart p hp hs

/-- A manifest that passes the check binds distinct ports of the host, and no record binds one of
them. -/
theorem checkHostPorts_ok {manifest : Manifest} {records : List Record}
    (h : checkHostPorts manifest records = .ok ()) :
    manifest.hostPorts.Nodup ∧ ∀ r ∈ records, r.boundHostPorts.Disjoint manifest.hostPorts := by
  unfold checkHostPorts at h
  split at h
  · cases h
  · next none_repeated =>
    refine ⟨(firstRepeated_eq_none_iff.1 none_repeated).1, fun r hr p hp hm => ?_⟩
    simp only at h
    split at h
    · cases h
    · next none_held =>
      have := List.findSome?_eq_none_iff.1 none_held r hr
      rw [Option.map_eq_none_iff, List.find?_eq_none] at this
      exact this p hp (by simpa using hm)

/-- The ports that are allocated are as many as asked for, distinct, and not taken. -/
theorem allocatePorts_ok {range : AllocationRange} {count : Nat} {manifest : Manifest}
    {records : List Record} {ports : List Port}
    (h : allocatePorts range count manifest records = .ok ports) :
    ports.length = count ∧ ports.Nodup ∧ ∀ p ∈ ports, p ∉ takenPorts manifest records := by
  rw [allocatePorts_eq] at h
  split at h
  · cases h
  · next enough =>
    cases h
    refine ⟨List.length_take_of_le (Nat.le_of_not_lt enough), ?_, fun p hp => ?_⟩
    · exact (nodup_freePorts _ _).take
    · exact (mem_freePorts.1 (List.mem_of_mem_take hp)).2

end Kennel
