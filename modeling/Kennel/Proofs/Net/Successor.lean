import Mathlib.Algebra.Group.Nat.Defs
import Kennel.Proofs.Net.Address

/-!
# The next address is the next number

The octets of an address are the digits of its number in base 256, the topmost first. To count on
in octets is to add one to the number: the carry goes as far as there are full octets before it, and
falls off the top exactly when all four of them are full. So the next address has the next number, and
only the highest address has no next one.
-/

namespace Kennel.Address

/-- The number that octets stand for, the topmost first. -/
def numberOf (octets : List UInt8) : Nat := octets.foldl (fun n o => n * 256 + o.toNat) 0

/-- The number of an address. -/
def number (a : Address) : Nat := numberOf a.octets

theorem numberOf_reverse_cons (o : UInt8) (rest : List UInt8) :
    numberOf (o :: rest).reverse = numberOf rest.reverse * 256 + o.toNat := by
  rw [numberOf, List.reverse_cons, List.foldl_append]
  rfl

/-- An address is held as its number. -/
theorem number_eq (a : Address) : a.number = a.bits.toNat := by
  have h := a.bits.toNat_lt
  simp only [number, numberOf, octets, List.foldl_cons, List.foldl_nil, UInt32.toNat_toUInt8,
    UInt32.toNat_shiftRight, UInt32.reduceToNat, Nat.shiftRight_eq_div_pow, Nat.reduceMod,
    Nat.reducePow]
  omega

theorem number_lt (a : Address) : a.number < 2 ^ 32 := by
  rw [number_eq]
  exact a.bits.toNat_lt

theorem number_injective {a b : Address} (h : a.number = b.number) : a = b := by
  rw [number_eq, number_eq, UInt32.toNat_inj] at h
  exact congrArg Address.mk h

/-- The address made of octets has the number that they stand for. -/
theorem number_ofOctets (a b c d : UInt8) : (ofOctets a b c d).number = numberOf [a, b, c, d] := by
  have ha := a.toNat_lt
  have hb := b.toNat_lt
  have hc := c.toNat_lt
  have hd := d.toNat_lt
  have value : numberOf [a, b, c, d] =
      ((a.toNat * 256 + b.toNat) * 256 + c.toNat) * 256 + d.toNat := by
    simp [numberOf]
  have small : numberOf [a, b, c, d] < 2 ^ 32 := by omega
  -- The address of that number has these octets, and it is made of its octets.
  have held : (UInt32.ofNat (numberOf [a, b, c, d])).toNat = numberOf [a, b, c, d] :=
    UInt32.toNat_ofNat_of_lt small
  generalize UInt32.ofNat (numberOf [a, b, c, d]) = bits at held
  have made := ofOctets_octets ⟨bits⟩
  have first : (bits >>> 24).toUInt8 = a := UInt8.toNat_inj.1 (by
    simp [Nat.shiftRight_eq_div_pow]; omega)
  have second : (bits >>> 16).toUInt8 = b := UInt8.toNat_inj.1 (by
    simp [Nat.shiftRight_eq_div_pow]; omega)
  have third : (bits >>> 8).toUInt8 = c := UInt8.toNat_inj.1 (by
    simp [Nat.shiftRight_eq_div_pow]; omega)
  have last : bits.toUInt8 = d := UInt8.toNat_inj.1 (by simp; omega)
  simp only [first, second, third, last] at made
  rw [made, number_eq, held]

/-- **Counting on in octets adds one.** -/
theorem numberOf_carry {octets after : List UInt8} (h : carry octets = some after) :
    after.length = octets.length ∧ numberOf after.reverse = numberOf octets.reverse + 1 := by
  induction octets generalizing after with
  | nil => cases h
  | cons o rest ih =>
    unfold carry at h
    split at h
    · next full =>
      obtain ⟨carried, ahead, rfl⟩ := Option.map_eq_some_iff.1 h
      obtain ⟨length, value⟩ := ih ahead
      refine ⟨by simp [length], ?_⟩
      rw [numberOf_reverse_cons, numberOf_reverse_cons, value, full]
      simp
      omega
    · next room =>
      cases h
      have : o.toNat ≠ 255 := fun e => room (UInt8.toNat_inj.1 e)
      have := o.toNat_lt
      refine ⟨rfl, ?_⟩
      rw [numberOf_reverse_cons, numberOf_reverse_cons]
      simp
      omega

/-- Nothing comes after octets that are all full. -/
theorem numberOf_of_carry_eq_none {octets : List UInt8} (h : carry octets = none) :
    numberOf octets.reverse + 1 = 256 ^ octets.length := by
  induction octets with
  | nil => rfl
  | cons o rest ih =>
    unfold carry at h
    split at h
    · next full =>
      have := ih (Option.map_eq_none_iff.1 h)
      rw [numberOf_reverse_cons, full, List.length_cons, Nat.pow_succ, ← this]
      simp
      omega
    · cases h

/-- **The next address has the next number.** -/
theorem next?_eq_some_iff {a b : Address} : a.next? = some b ↔ b.number = a.number + 1 := by
  have four : a.octets.reverse.length = 4 := rfl
  have same : numberOf a.octets.reverse.reverse = a.number := by rw [List.reverse_reverse, number]
  unfold next?
  cases counted : carry a.octets.reverse with
  | none =>
    have top := numberOf_of_carry_eq_none counted
    rw [same, four] at top
    have := b.number_lt
    constructor
    · intro h
      cases h
    · omega
  | some after =>
    obtain ⟨length, value⟩ := numberOf_carry counted
    rw [four] at length
    rw [same] at value
    obtain ⟨o₁, o₂, o₃, o₄, rfl⟩ : ∃ o₁ o₂ o₃ o₄, after = [o₁, o₂, o₃, o₄] := by
      match after, length with
      | [o₁, o₂, o₃, o₄], _ => exact ⟨o₁, o₂, o₃, o₄, rfl⟩
    have number : (ofOctets o₄ o₃ o₂ o₁).number = a.number + 1 := by
      rw [number_ofOctets, ← value]
      rfl
    rw [← number]
    exact ⟨fun h => (Option.some.inj h) ▸ rfl, fun h => congrArg some (number_injective h.symm)⟩

/-- Only the highest address has no next one. -/
theorem next?_eq_none_iff {a : Address} : a.next? = none ↔ a.number + 1 = 2 ^ 32 := by
  have small := a.number_lt
  constructor
  · intro last
    rcases Nat.lt_or_ge (a.number + 1) (2 ^ 32) with room | top
    · have number : number ⟨UInt32.ofNat (a.number + 1)⟩ = a.number + 1 := by
        rw [number_eq]
        exact UInt32.toNat_ofNat_of_lt room
      rw [next?_eq_some_iff.2 number] at last
      cases last
    · omega
  · intro top
    cases next : a.next? with
    | none => rfl
    | some b =>
      have := next?_eq_some_iff.1 next
      have := b.number_lt
      omega

end Kennel.Address
