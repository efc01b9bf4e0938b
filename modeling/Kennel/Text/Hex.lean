import Kennel.Json.Reading
import Kennel.Json.Value

/-!
# Hexadecimal text

Numbers and bytes written in hexadecimal digits, in lower case.
-/

namespace Kennel.Hex

/-- The last `digits` digits of a number. -/
def text (digits n : Nat) : String :=
  String.ofList ((List.range digits).reverse.map fun i => Json.hexDigit (n / Nat.pow 16 i % 16))

/-- Bytes, two digits each. -/
def ofBytes (bytes : ByteArray) : String := String.join (bytes.toList.map fun b => text 2 b.toNat)

/-- The number that digits denote; other characters count as zeros. -/
def number (s : String) : Nat := s.toList.foldl (fun n c => n * 16 + (Json.hexValue? c).getD 0) 0

/-- The bytes that pairs of digits denote. -/
def toBytes (s : String) : ByteArray :=
  go ByteArray.empty s.toList
where
  /-- Goes on after the bytes that are known. -/
  go (done : ByteArray) : List Char → ByteArray
    | high :: low :: rest => go (done.push (number (String.ofList [high, low])).toUInt8) rest
    | _ => done

end Kennel.Hex
