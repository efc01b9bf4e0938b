import Mathlib.Data.List.Perm.Subperm
import Mathlib.Data.Set.Card
import Kennel.Proofs.Allocation.Scan

/-!
# The lowest free ports

What an allocation of ports hands out is said without the scan: `LowestOf` names the list of the
lowest ports of a set, and there is at most one such list of a length (`LowestOf.unique`). The set is
that of the ports from the start on which no record binds and which the manifest at hand does not bind
itself.

**An allocation hands out the lowest free ports, and it fails exactly if there are too few of them**
(`lowest_ports_allocated`). Port 65535 is one of those that can be handed out.
-/

namespace Kennel

/-- The ports of the host that can be handed out. -/
def freeHostPorts (start : Port) (manifest : Manifest) (records : List Record) : Set Port :=
  {p | start ≤ p ∧ (∀ r ∈ records, p ∉ r.boundHostPorts) ∧ p ∉ manifest.hostPorts}

/-- A list of the `count` lowest ports of a set, in ascending order. -/
structure LowestOf (free : Set Port) (count : Nat) (ports : List Port) : Prop where
  length : ports.length = count
  ascending : ports.Pairwise (· < ·)
  within : ∀ p ∈ ports, p ∈ free
  lowest : ∀ p ∈ ports, ∀ q ∈ free, q ∉ ports → p < q

/-! ## Free ports as a set and as a list -/

theorem mem_freeHostPorts {start p : Port} {manifest : Manifest} {records : List Record} :
    p ∈ freeHostPorts start manifest records ↔ p ∈ freePorts start (takenPorts manifest records) := by
  rw [mem_freePorts, takenPorts, List.mem_append, List.mem_flatMap, not_or]
  simp only [freeHostPorts, Set.mem_ofPred_eq, not_exists, not_and]

/-- There are as many free ports as the list of them is long. -/
theorem ncard_freeHostPorts (start : Port) (manifest : Manifest) (records : List Record) :
    (freeHostPorts start manifest records).ncard =
      (freePorts start (takenPorts manifest records)).length := by
  have same : freeHostPorts start manifest records =
      ((freePorts start (takenPorts manifest records)).toFinset : Set Port) := by
    ext p
    rw [mem_freeHostPorts, List.coe_toFinset, Set.mem_ofPred_eq]
  rw [same, Set.ncard_coe_finset, List.toFinset_card_of_nodup (nodup_freePorts _ _)]

theorem pairwise_freePorts (start : Port) (taken : List Port) :
    (freePorts start taken).Pairwise (· < ·) := (pairwise_portsFrom start).filter _

/-! ## Lists of lowest ports -/

namespace LowestOf

variable {free : Set Port} {count : Nat} {ports ports' : List Port}

theorem nodup (h : LowestOf free count ports) : ports.Nodup := h.ascending.imp UInt16.ne_of_lt

/-- The first entries of an ascending list are the lowest ones. -/
theorem take {l : List Port} (ascending : l.Pairwise (· < ·)) (enough : count ≤ l.length) :
    LowestOf {p | p ∈ l} count (l.take count) where
  length := List.length_take_of_le enough
  ascending := ascending.take
  within p hp := List.mem_of_mem_take hp
  lowest p hp q hq later := by
    rw [← List.take_append_drop count l] at ascending hq
    exact (List.pairwise_append.1 ascending).2.2 p hp q ((List.mem_append.1 hq).resolve_left later)

/-- Of two such lists of one length neither has a port that the other one has not: such a port of
each list would be lower than that of the other. -/
theorem subset (h : LowestOf free count ports) (h' : LowestOf free count ports') :
    ports ⊆ ports' := by
  intro p hp
  by_contra absent
  have covered : ports' ⊆ ports := by
    intro q hq
    by_contra missing
    have less := h.lowest p hp q (h'.within q hq) missing
    have more := h'.lowest q hq p (h.within p hp) absent
    exact UInt16.lt_asymm less more
  have perm := (h'.nodup.subperm covered).perm_of_length_le (h.length.trans h'.length.symm).le
  exact absent (perm.symm.subset hp)

/-- **There is at most one list of the lowest ports.** -/
theorem unique (h : LowestOf free count ports) (h' : LowestOf free count ports') :
    ports = ports' := by
  have perm := (h.nodup.subperm (h.subset h')).perm_of_length_le
    (h'.length.trans h.length.symm).le
  exact perm.eq_of_pairwise (fun _ _ _ _ less more => absurd more (UInt16.lt_asymm less))
    h.ascending h'.ascending

end LowestOf

/-- The greatest entry of an ascending list is its last one. -/
theorem getLast?_of_ascending {l : List Port} (ascending : l.Pairwise (· < ·)) {top : Port}
    (member : top ∈ l) (greatest : ∀ p, ¬ top < p) : l.getLast? = some top := by
  obtain ⟨before, after, rfl⟩ := List.append_of_mem member
  have above := (List.pairwise_cons.1 (List.pairwise_append.1 ascending).2.1).1
  cases after with
  | nil => exact List.getLast?_concat
  | cons p after => exact absurd (above p List.mem_cons_self) (greatest p)

/-- **The lowest free ports are allocated.** An allocation ends with a list exactly if that is the list
of the lowest free ports, as many as asked for; it fails exactly if there are fewer of them, and says
so. The last port of all is handed out, too, when it is free and all free ports are asked for. -/
theorem lowest_ports_allocated (range : AllocationRange) (count : Nat) (manifest : Manifest)
    (records : List Record) :
    (∀ ports, allocatePorts range count manifest records = .ok ports ↔
        LowestOf (freeHostPorts range.portStart manifest records) count ports) ∧
      (∀ e, allocatePorts range count manifest records = .error e ↔
        (freeHostPorts range.portStart manifest records).ncard < count ∧
          e = .portsExhausted range.portStart count) ∧
      (65535 ∈ freeHostPorts range.portStart manifest records →
        ∃ ports, allocatePorts range (freeHostPorts range.portStart manifest records).ncard manifest
            records = .ok ports ∧ ports.getLast? = some 65535) := by
  have sorted := pairwise_freePorts range.portStart (takenPorts manifest records)
  have same : freeHostPorts range.portStart manifest records =
      {p | p ∈ freePorts range.portStart (takenPorts manifest records)} :=
    Set.ext fun p => mem_freeHostPorts
  rw [ncard_freeHostPorts, allocatePorts_eq, allocatePorts_eq, same]
  generalize freePorts range.portStart (takenPorts manifest records) = free at sorted
  refine ⟨fun ports => ?_, fun e => ?_, fun last => ?_⟩
  · split
    · next few =>
      refine ⟨(nomatch ·), fun lowest => ?_⟩
      have := (lowest.nodup.subperm lowest.within).length_le
      rw [lowest.length] at this
      omega
    · next enough =>
      have lowest := LowestOf.take sorted (Nat.le_of_not_lt enough)
      rw [Except.ok.injEq]
      exact ⟨fun h => h ▸ lowest, fun h => lowest.unique h⟩
  · split
    · next few => simp [few, eq_comm]
    · next enough => simp [enough]
  · rw [if_neg (Nat.lt_irrefl _), List.take_length]
    refine ⟨free, rfl, getLast?_of_ascending sorted last fun p less => ?_⟩
    have := p.toNat_lt
    have less : (65535 : Port).toNat < p.toNat := less
    simp only [UInt16.reduceToNat] at less
    omega

/-- A manifest that binds the last port but one itself. -/
def penultimateBinder : Manifest where
  identity := ⟨"node", "1.0.0", ""⟩
  container := { exposes := [{ name := "rpc", protocol := .tcp, port := 65534, listenOnHost := true }] }

/-- With the port between bound, the last two free ports are handed out. -/
theorem lowest_ports_allocated_toLast :
    65535 ∈ freeHostPorts 65533 penultimateBinder [] ∧
      (freeHostPorts 65533 penultimateBinder []).ncard = 2 ∧
      ∃ ports, allocatePorts { portStart := 65533 } 2 penultimateBinder [] = .ok ports ∧
        ports.getLast? = some 65535 := by
  have count : (freeHostPorts 65533 penultimateBinder []).ncard = 2 := by
    rw [ncard_freeHostPorts]
    decide +kernel
  have free : 65535 ∈ freeHostPorts 65533 penultimateBinder [] := by
    rw [mem_freeHostPorts]
    decide +kernel
  have allocated := (lowest_ports_allocated { portStart := 65533 } 2 penultimateBinder []).2.2 free
  rw [count] at allocated
  exact ⟨free, count, allocated⟩

end Kennel
