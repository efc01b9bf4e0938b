import Mathlib.Data.List.Nodup
import Kennel.Allocation.Basic

/-!
# The scan for free ports

A scan finds the first of the ports ahead of it that are not taken, as many as it looks for
(`scanPorts_eq`). That what it finds is taken from then on makes no difference to the rest of the
scan, since all ports ahead are greater; and the ports ahead end with the last port there is.

So **the ports that are allocated are the first of the free ones** (`allocatePorts_eq`).
-/

namespace Kennel

/-! ## The ports ahead -/

/-- The ports from a start on, ascending. -/
def portsFrom (start : Port) : List Port :=
  (List.range' start.toNat (65536 - start.toNat)).map Nat.toUInt16

/-- The ports ahead of a scan, ascending. -/
def portsOnwards (candidate : Option Port) : List Port := candidate.elim [] portsFrom

/-- A port comes first of the ports from it on; those ahead of the next port follow. -/
theorem portsFrom_eq_cons (p : Port) : portsFrom p = p :: portsOnwards p.next? := by
  have h := p.toNat_lt
  have ahead : 65536 - p.toNat = (65535 - p.toNat) + 1 := by omega
  rw [portsFrom, ahead, List.range'_succ, List.map_cons]
  refine congrArg₂ List.cons UInt16.ofNat_toNat ?_
  unfold Port.next?
  split
  · next top =>
    subst top
    rfl
  · next inside =>
    have notTop : p.toNat ≠ 65535 := fun e => inside (UInt16.toNat_inj.1 e)
    have next : (p + 1).toNat = p.toNat + 1 := by
      rw [UInt16.toNat_add]
      exact Nat.mod_eq_of_lt (by simp only [UInt16.reduceToNat]; omega)
    rw [portsOnwards, Option.elim_some, portsFrom, next]
    congr 2
    omega

theorem mem_portsFrom {start p : Port} : p ∈ portsFrom start ↔ start ≤ p := by
  have hp := p.toNat_lt
  rw [portsFrom, List.mem_map, UInt16.le_iff_toNat_le]
  constructor
  · rintro ⟨n, member, rfl⟩
    obtain ⟨low, high⟩ := List.mem_range'_1.1 member
    rw [UInt16.toNat_ofNat', Nat.mod_eq_of_lt (by omega)]
    exact low
  · intro low
    exact ⟨p.toNat, List.mem_range'_1.2 ⟨low, by omega⟩, UInt16.ofNat_toNat⟩

theorem pairwise_portsFrom (start : Port) : (portsFrom start).Pairwise (· < ·) := by
  have h := start.toNat_lt
  refine List.pairwise_map.2 ((List.pairwise_lt_range' 1).imp_of_mem fun {a b} ha hb less => ?_)
  have ha := (List.mem_range'_1.1 ha).2
  have hb := (List.mem_range'_1.1 hb).2
  rw [UInt16.lt_iff_toNat_lt, UInt16.toNat_ofNat', UInt16.toNat_ofNat',
    Nat.mod_eq_of_lt (by omega), Nat.mod_eq_of_lt (by omega)]
  exact less

/-- The ports ahead of the next port are greater. -/
theorem lt_of_mem_portsOnwards {p q : Port} (h : q ∈ portsOnwards p.next?) : p < q := by
  have sorted := pairwise_portsFrom p
  rw [portsFrom_eq_cons] at sorted
  exact (List.pairwise_cons.1 sorted).1 q h

/-! ## The scan -/

/-- **A scan finds the first of the ports ahead that are not taken.** -/
theorem scanPorts_eq (count : Nat) (taken : PortSet) (found : List Port) (candidate : Option Port) :
    scanPorts count taken found candidate =
      if ((portsOnwards candidate).filter (!taken.contains ·)).length < count then none
      else some (found.reverse ++ ((portsOnwards candidate).filter (!taken.contains ·)).take count) := by
  fun_induction scanPorts count taken found candidate with
  | case1 => simp
  | case2 => simp [portsOnwards]
  | case3 taken found count port held ih =>
    rw [ih, show portsOnwards (some port) = _ from portsFrom_eq_cons port,
      List.filter_cons_of_neg (by simp [held])]
  | case4 taken found count port free ih =>
    -- The found port is none of those ahead, so they are taken or not as before.
    have same : (portsOnwards port.next?).filter (!(taken.insert port).contains ·) =
        (portsOnwards port.next?).filter (!taken.contains ·) :=
      List.filter_congr fun q hq => by
        have other : q ≠ port := (UInt16.ne_of_lt (lt_of_mem_portsOnwards hq)).symm
        rw [PortSet.contains_insert, beq_false_of_ne other, Bool.false_or]
    rw [ih, same, show portsOnwards (some port) = _ from portsFrom_eq_cons port,
      List.filter_cons_of_pos (by simp [free]), List.length_cons, List.reverse_cons,
      Nat.succ_eq_add_one, List.take_succ_cons, List.append_assoc]
    simp only [Nat.add_lt_add_iff_right, List.cons_append, List.nil_append]

/-- The ports from a start on that are not taken, ascending. -/
def freePorts (start : Port) (taken : List Port) : List Port :=
  (portsFrom start).filter fun p => !taken.contains p

/-- **The ports that are allocated are the first of the free ones**, if there are enough of them. -/
theorem allocatePorts_eq (range : AllocationRange) (count : Nat) (manifest : Manifest)
    (records : List Record) :
    allocatePorts range count manifest records =
      if (freePorts range.portStart (takenPorts manifest records)).length < count then
        .error (.portsExhausted range.portStart count)
      else .ok ((freePorts range.portStart (takenPorts manifest records)).take count) := by
  have free : (portsOnwards (some range.portStart)).filter
      (!(PortSet.ofList (takenPorts manifest records)).contains ·) =
        freePorts range.portStart (takenPorts manifest records) := by
    simp only [PortSet.contains_ofList]
    rfl
  rw [allocatePorts, scanPorts_eq, free]
  by_cases few : (freePorts range.portStart (takenPorts manifest records)).length < count
  · simp only [if_pos few]
  · simp only [if_neg few, List.reverse_nil, List.nil_append]

theorem nodup_freePorts (start : Port) (taken : List Port) : (freePorts start taken).Nodup :=
  ((pairwise_portsFrom start).imp UInt16.ne_of_lt).filter _

theorem mem_freePorts {start p : Port} {taken : List Port} :
    p ∈ freePorts start taken ↔ start ≤ p ∧ p ∉ taken := by
  rw [freePorts, List.mem_filter, mem_portsFrom, Bool.not_eq_true', List.contains_eq_mem,
    decide_eq_false_iff_not]

end Kennel
