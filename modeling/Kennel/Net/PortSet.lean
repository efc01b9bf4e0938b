import Kennel.Net.Address

/-!
# Sets of ports

A set of ports is held as one number, which has a bit for each port. A look-up takes no longer when
many ports are in the set.
-/

namespace Kennel

/-- A set of ports: the bit at the place of a port says whether the port is in the set. -/
structure PortSet where
  bits : Nat
  deriving DecidableEq, Inhabited

namespace PortSet

def empty : PortSet := ⟨0⟩

def contains (s : PortSet) (p : Port) : Bool := s.bits.testBit p.toNat

def insert (s : PortSet) (p : Port) : PortSet := ⟨s.bits ||| 1 <<< p.toNat⟩

def ofList (ports : List Port) : PortSet := ports.foldl insert empty

theorem contains_insert (s : PortSet) (p q : Port) :
    (s.insert p).contains q = (q == p || s.contains q) := by
  have bit : (1 <<< p.toNat).testBit q.toNat = (q == p) := by
    rw [Nat.one_shiftLeft, Nat.testBit_two_pow, Bool.eq_iff_iff, decide_eq_true_eq, beq_iff_eq,
      UInt16.toNat_inj, eq_comm]
  rw [contains, insert, Nat.testBit_or, bit, Bool.or_comm]
  rfl

theorem contains_foldl_insert (ports : List Port) (s : PortSet) (q : Port) :
    (ports.foldl insert s).contains q = (ports.contains q || s.contains q) := by
  induction ports generalizing s with
  | nil => rfl
  | cons p ports ih =>
    rw [List.foldl_cons, ih, contains_insert, List.contains_cons, Bool.or_assoc, Bool.or_left_comm]

theorem contains_ofList (ports : List Port) (q : Port) :
    (ofList ports).contains q = ports.contains q := by
  rw [ofList, contains_foldl_insert, show empty.contains q = false from Nat.zero_testBit _,
    Bool.or_false]

end PortSet

end Kennel
