/-!
# The shortest decimal that reads back

A binary64 number stands for every real that rounds to it, an interval around its value whose ends
belong to it when its significand is even. `Decimal.shortest?` is the decimal number with the
fewest digits in that interval, and of several with that many digits the one nearest to the value;
of two equally near the one with the even last digit.

The search runs over exact natural numbers: for one digit, two digits, and so on, it looks at the
two neighbours of the value on the grid of decimals with that many digits.
-/

namespace Kennel

/-- The decimal number `digits * 10 ^ exponent`. -/
structure Decimal where
  digits : Nat
  exponent : Int
  deriving DecidableEq

namespace Decimal

/-- A positive rational number and the interval around it, all over the one denominator `den`. -/
structure Target where
  low : Nat
  value : Nat
  high : Nat
  den : Nat
  /-- Whether the ends belong to the interval. -/
  closed : Bool

/-- The interval of reals that round to `m * 2 ^ q`; below a power of two the gap is half as wide. -/
def Target.ofBinary (m : Nat) (q : Int) (narrow : Bool) : Target :=
  let low := if narrow then 4 * m - 1 else 4 * m - 2
  let up := (q - 2).toNat
  let down := (2 - q).toNat
  let unit := Nat.pow 2 up
  ⟨low * unit, 4 * m * unit, (4 * m + 2) * unit, Nat.pow 2 down, m % 2 = 0⟩

/-- Whether `d * 10 ^ e` lies in the interval. -/
def Target.holds (t : Target) (d : Nat) (e : Int) : Bool :=
  let n := d * Nat.pow 10 e.toNat * t.den
  let s := Nat.pow 10 (-e).toNat
  if t.closed then t.low * s ≤ n && n ≤ t.high * s else t.low * s < n && n < t.high * s

/-- The largest `e` from `guess - 2` on, at most `guess + 2`, with `10 ^ e` not above the value. -/
def Target.magnitude (t : Target) (guess : Int) : Int :=
  let reaches (e : Int) : Bool :=
    Nat.pow 10 e.toNat * t.den ≤ t.value * Nat.pow 10 (-e).toNat
  ([guess + 2, guess + 1, guess, guess - 1].find? reaches).getD (guess - 2)

/-- The value's neighbour on the grid of multiples of `10 ^ e` that is the best hit, if one is. -/
def Target.onGrid (t : Target) (e : Int) : Option Nat :=
  let n := t.value * Nat.pow 10 (-e).toNat
  let s := t.den * Nat.pow 10 e.toNat
  let d := n / s
  let r := n % s
  match t.holds d e && 0 < d, t.holds (d + 1) e with
  | true, true => if 2 * r < s ∨ (2 * r = s ∧ d % 2 = 0) then some d else some (d + 1)
  | true, false => some d
  | false, true => some (d + 1)
  | false, false => none

/-- The number without zeros at its end. -/
def trim (fuel : Nat) (d : Decimal) : Decimal :=
  match fuel with
  | 0 => d
  | fuel + 1 =>
    if d.digits ≠ 0 ∧ d.digits % 10 = 0 then trim fuel ⟨d.digits / 10, d.exponent + 1⟩ else d

/-- The shortest decimal that reads back as `m * 2 ^ q`, for a positive `m`. -/
def shortest? (m : Nat) (q : Int) (narrow : Bool) : Option Decimal :=
  let t := Target.ofBinary m q narrow
  let top := t.magnitude ((m.log2 + q) * 30103 / 100000)
  (List.range 17).findSome? fun (n : Nat) =>
    let e := top - n
    (t.onGrid e).map fun d => trim 20 ⟨d, e⟩

/-- The significand and the exponent of a finite number's binary form. -/
def ofBits (bits : UInt64) : Nat × Int :=
  let field := ((bits >>> 52) &&& 0x7ff).toNat
  let fraction := (bits &&& 0xfffffffffffff).toNat
  if field = 0 then (fraction, -1074) else (fraction + Nat.pow 2 52, field - 1075)

/-- The shortest decimal of a finite number's magnitude; zero has no digits. -/
def ofFloat (x : Float) : Decimal :=
  let (m, q) := ofBits x.toBits
  if m = 0 then ⟨0, 0⟩
  else (shortest? m q (m = Nat.pow 2 52 ∧ -1074 < q)).getD ⟨0, 0⟩

end Decimal

end Kennel
