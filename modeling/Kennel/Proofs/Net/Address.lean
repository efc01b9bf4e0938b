import Kennel.Net.Address

/-!
# Addresses read back

The dotted form of an address is read as the address: the dots cut it into its octets again, each
octet is read from its decimal digits, and the octets make up the number.
-/

namespace Kennel.Address

/-- The octets of an address make up the address: each of its bits lies in one of them. -/
theorem ofOctets_octets (a : Address) :
    ofOctets (a.bits >>> 24).toUInt8 (a.bits >>> 16).toUInt8 (a.bits >>> 8).toUInt8 a.bits.toUInt8 =
      a := by
  obtain ⟨x⟩ := a
  refine congrArg Address.mk (UInt32.toBitVec_inj.1 (BitVec.eq_of_getLsbD_eq fun i hi => ?_))
  have first : UInt32.toBitVec 24 % 32 = 24#32 := by decide
  have second : UInt32.toBitVec 16 % 32 = 16#32 := by decide
  have third : UInt32.toBitVec 8 % 32 = 8#32 := by decide
  simp only [UInt32.toBitVec_or, UInt32.toBitVec_shiftLeft, UInt32.toBitVec_shiftRight,
    UInt8.toBitVec_toUInt32, UInt32.toBitVec_toUInt8, first, second, third, BitVec.getLsbD_or,
    BitVec.shiftLeft_eq', BitVec.getLsbD_shiftLeft, BitVec.getLsbD_setWidth,
    BitVec.ushiftRight_eq', BitVec.getLsbD_ushiftRight]
  by_cases low : i < 8
  · simp [low, show i < 16 by omega, show i < 24 by omega, hi]
  by_cases mid : i < 16
  · simp [low, mid, show i < 24 by omega, show i - 8 < 8 by omega, show i - 8 < 32 by omega,
      show 8 + (i - 8) = i by omega, hi]
  by_cases high : i < 24
  · simp [low, mid, high, show i - 16 < 8 by omega, show ¬ i - 8 < 8 by omega,
      show i - 16 < 32 by omega, show 16 + (i - 16) = i by omega, hi]
  · simp [low, mid, high, show i - 24 < 8 by omega, show ¬ i - 16 < 8 by omega,
      show ¬ i - 8 < 8 by omega, show i - 24 < 32 by omega, show 24 + (i - 24) = i by omega, hi]

/-- Each octet is read from its decimal digits. -/
theorem readOctet?_toString (o : UInt8) : readOctet? (toString o.toNat).toList = some o := by
  have all : ∀ n < 256, readOctet? (Nat.toDigits 10 n) = some n.toUInt8 := by decide +kernel
  have h := all o.toNat o.toNat_lt
  rw [Nat.toString_eq_ofList_toDigits, String.toList_ofList, h]
  exact congrArg some (UInt8.ofNat_toNat)

theorem splitDots_append {part : List Char} (h : '.' ∉ part) (rest : List Char) :
    splitDots (part ++ '.' :: rest) = part :: splitDots rest := by
  induction part with
  | nil => rfl
  | cons c part ih =>
    rw [List.mem_cons, not_or] at h
    rw [List.cons_append, splitDots, ih h.2]
    exact fun e => h.1 e.symm

theorem splitDots_of_notMem {part : List Char} (h : '.' ∉ part) : splitDots part = [part] := by
  induction part with
  | nil => rfl
  | cons c part ih =>
    rw [List.mem_cons, not_or] at h
    rw [splitDots, ih h.2]
    exact fun e => h.1 e.symm

/-- There is no dot among the digits of an octet. -/
theorem dot_notMem (o : UInt8) : '.' ∉ (toString o.toNat).toList := by
  intro h
  rw [Nat.toString_eq_ofList_toDigits, String.toList_ofList] at h
  have := Nat.isDigit_of_mem_toDigits (by decide) (by decide) h
  cases this

/-- **The dotted form of an address is read as the address.** -/
theorem read?_toText (a : Address) : read? a.toText = some a := by
  have text : a.toText.toList =
      (toString (a.bits >>> 24).toUInt8.toNat).toList ++ '.' ::
        ((toString (a.bits >>> 16).toUInt8.toNat).toList ++ '.' ::
          ((toString (a.bits >>> 8).toUInt8.toNat).toList ++ '.' ::
            (toString a.bits.toUInt8.toNat).toList)) := by
    rw [toText, String.toList_intercalate]
    simp [octets]
  rw [read?, text, splitDots_append (dot_notMem _), splitDots_append (dot_notMem _),
    splitDots_append (dot_notMem _), splitDots_of_notMem (dot_notMem _)]
  simp only [List.map_cons, List.map_nil, readOctet?_toString]
  rw [ofOctets_octets]

end Kennel.Address
