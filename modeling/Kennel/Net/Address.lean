/-!
# Addresses and ports

An `Address` is an IPv4 address, held as its 32-bit number with the first octet on top. Addresses
are ordered as these numbers. `Address.next?` counts on in the last octet; it carries through the
octets and ends after 255.255.255.255. `Port.next?` ends after 65535.

The written form is four decimal octets with dots. Reading is strict: no sign, no blank, at most
three digits to an octet, and no leading zero.
-/

namespace Kennel

/-- A TCP port of the host or of a container. -/
abbrev Port := UInt16

/-- The next port, if there is one. -/
def Port.next? (p : Port) : Option Port := if p = 65535 then none else some (p + 1)

/-- An IPv4 address as a 32-bit number. -/
structure Address where
  bits : UInt32
  deriving DecidableEq, Inhabited, Hashable

namespace Address

instance : LT Address := ⟨fun a b => a.bits < b.bits⟩

instance : LE Address := ⟨fun a b => a.bits ≤ b.bits⟩

instance : DecidableLT Address := fun a b => inferInstanceAs (Decidable (a.bits < b.bits))

instance : DecidableLE Address := fun a b => inferInstanceAs (Decidable (a.bits ≤ b.bits))

/-- The address with these octets, the first one on top. -/
def ofOctets (a b c d : UInt8) : Address :=
  ⟨a.toUInt32 <<< 24 ||| b.toUInt32 <<< 16 ||| c.toUInt32 <<< 8 ||| d.toUInt32⟩

/-- The four octets, the topmost first. -/
def octets (a : Address) : List UInt8 :=
  [(a.bits >>> 24).toUInt8, (a.bits >>> 16).toUInt8, (a.bits >>> 8).toUInt8, a.bits.toUInt8]

/-- The greater of two addresses. -/
def max (a b : Address) : Address := if a < b then b else a

/-- Counts on in octets, the last of which comes first: a full one turns over to zero and carries
into the next. Nothing comes after octets that are all full. -/
def carry : List UInt8 → Option (List UInt8)
  | [] => none
  | o :: rest => if o = 255 then (carry rest).map (0 :: ·) else some ((o + 1) :: rest)

/-- The next address, if there is one. -/
def next? (a : Address) : Option Address :=
  match carry a.octets.reverse with
  | some [d, c, b, a] => some (ofOctets a b c d)
  | _ => none

/-- The dotted form, such as `10.69.0.1`. -/
def toText (a : Address) : String := ".".intercalate (a.octets.map fun o => toString o.toNat)

/-- One octet: one to three digits without a leading zero, at most 255. -/
def readOctet? (digits : List Char) : Option UInt8 :=
  if digits = [] ∨ 3 < digits.length ∨ ¬ digits.all Char.isDigit then none
  else if 1 < digits.length ∧ digits.head? = some '0' then none
  else
    let n := digits.foldl (fun n c => n * 10 + (c.toNat - '0'.toNat)) 0
    if n < 256 then some n.toUInt8 else none

/-- Cuts a text at every dot. -/
def splitDots : List Char → List (List Char)
  | [] => [[]]
  | '.' :: rest => [] :: splitDots rest
  | c :: rest =>
    match splitDots rest with
    | [] => [[c]]
    | part :: parts => (c :: part) :: parts

/-- Reads the dotted form. -/
def read? (text : String) : Option Address :=
  match (splitDots text.toList).map readOctet? with
  | [some a, some b, some c, some d] => some (ofOctets a b c d)
  | _ => none

end Address

end Kennel
