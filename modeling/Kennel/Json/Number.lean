import Kennel.Decimal.Shortest

/-!
# Numbers in JSON

A number is either an integer that fits 64 bits, with or without a sign, or a binary64 float. The
written form of a float is its shortest decimal: positional when its first digit stands between
four places after the point and sixteen before it, and in scientific notation otherwise.

A number is read digit by digit into a 64-bit significand and scaled by an exact power of ten:
digits that no longer fit are dropped, those before the point at the price of a higher exponent.
The scaling is one multiplication or one division, so the result can miss the nearest float by a
last bit. A result beyond the floats is refused; `-0` is the float of that sign.
-/

namespace Kennel.Json

/-- A number as it is held: a 64-bit integer of either sign, or a float. -/
inductive Number where
  | int (i : Int)
  | real (x : Float)
  deriving Inhabited

namespace Number

/-- The decimal digits of `n`. -/
def digitsOf (n : Nat) : List Char := Nat.toDigits 10 n

/-- The text of a decimal: at most sixteen digits before the point, at most four zeros after it. -/
def decimalText (d : Decimal) : List Char :=
  let ds := digitsOf d.digits
  let len : Int := ds.length
  let point := len + d.exponent
  if 0 ≤ d.exponent ∧ point ≤ 16 then
    ds ++ List.replicate d.exponent.toNat '0' ++ ['.', '0']
  else if 0 < point ∧ point ≤ 16 then
    ds.take point.toNat ++ '.' :: ds.drop point.toNat
  else if -5 < point ∧ point ≤ 0 then
    '0' :: '.' :: List.replicate (-point).toNat '0' ++ ds
  else
    let mantissa := match ds with
      | [] => []
      | [d] => [d]
      | d :: rest => d :: '.' :: rest
    let exponent := point - 1
    mantissa ++ 'e' :: (if exponent < 0 then ['-'] else []) ++ digitsOf exponent.natAbs

/-- Whether the number is neither infinite nor undefined. -/
def isFinite (x : Float) : Bool := (x.toBits >>> 52) &&& 0x7ff != 0x7ff

/-- The text of a float; a float that is not finite has none and is written `null`. -/
def realText (x : Float) : List Char :=
  if isFinite x then
    let sign := if x.toBits >>> 63 = 1 then ['-'] else []
    let d := Decimal.ofFloat x
    sign ++ if d.digits = 0 then ['0', '.', '0'] else decimalText d
  else ['n', 'u', 'l', 'l']

def intText (i : Int) : List Char :=
  if i < 0 then '-' :: digitsOf i.natAbs else digitsOf i.toNat

def text : Number → List Char
  | int i => intText i
  | real x => realText x

/-- The parts of a number as it is written. -/
structure Literal where
  negative : Bool
  whole : List Nat
  fraction : Option (List Nat) := none
  /-- The exponent's sign and digits. -/
  exponent : Option (Bool × List Nat) := none

/-- Takes digits into a significand while it stays below `limit`; the second part is how many. -/
def accumulate (limit : Nat) (significand used : Nat) : List Nat → Nat × Nat × List Nat
  | [] => (significand, used, [])
  | d :: rest =>
    if limit ≤ significand * 10 + d then (significand, used, d :: rest)
    else accumulate limit (significand * 10 + d) (used + 1) rest

/-- An exact power of ten, for exponents up to 308. -/
def powerOfTen (n : Nat) : Float := Float.ofScientific 1 false n

/-- `x * 10 ^ exponent` by one multiplication or division, by several steps down where the
exponent is below the powers of ten there are. Nothing if the result is beyond the floats. -/
def scale (x : Float) (exponent : Int) : Option Float :=
  if exponent.natAbs ≤ 308 then
    if 0 ≤ exponent then
      let y := x * powerOfTen exponent.natAbs
      if isFinite y then some y else none
    else some (x / powerOfTen exponent.natAbs)
  else if x == 0 then some x
  else if 0 ≤ exponent then none
  else scale (x / powerOfTen 308) (exponent + 308)
termination_by exponent.natAbs
decreasing_by omega

def ofParts (negative : Bool) (significand : Nat) (exponent : Int) : Option Float :=
  (scale significand.toUInt64.toFloat exponent).map fun x => if negative then -x else x

/-- The number a literal stands for; nothing if it is beyond the floats. -/
def Literal.value (l : Literal) : Option Number :=
  let (s, _, dropped) := accumulate (Nat.pow 2 64) 0 0 l.whole
  match dropped, l.fraction, l.exponent with
  | [], none, none =>
    if !l.negative then some (.int s)
    else if s = 0 ∨ Nat.pow 2 63 < s then some (.real (-s.toUInt64.toFloat))
    else some (.int (-s))
  | _, _, _ =>
    let (s, used, _) := accumulate (Nat.pow 2 64) s 0 (l.fraction.getD [])
    let start : Int := dropped.length - used
    match l.exponent with
    | none => (ofParts l.negative s start).map .real
    | some (down, ds) =>
      let (e, _, beyond) := accumulate (Nat.pow 2 31) 0 0 ds
      if beyond = [] then
        (ofParts l.negative s (if down then start - e else start + e)).map .real
      else if s ≠ 0 ∧ !down then none
      else some (.real (if l.negative then -0.0 else 0.0))

def toFloat : Number → Float
  | int i => if i < 0 then -i.natAbs.toUInt64.toFloat else i.natAbs.toUInt64.toFloat
  | real x => x

end Number

end Kennel.Json
