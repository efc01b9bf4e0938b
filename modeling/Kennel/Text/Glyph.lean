/-!
# Bytes as text

A file is bytes, and its text is what UTF-8 makes of them. `Glyph.ofBytes` reads bytes as a list
of glyphs: a character where the bytes encode one, and a stray glyph for each maximal run of bytes
that begins an encoding and does not finish it (or cannot begin one). Bytes that are valid UTF-8
give characters only, namely those of the text they encode (`Glyph.ofBytes_toUTF8`).
-/

namespace Kennel

/-- A piece of a byte string read as UTF-8. -/
inductive Glyph where
  /-- A character. -/
  | char (c : Char)
  /-- Bytes that encode no character, `width` of them. -/
  | stray (width : Nat)
  deriving DecidableEq, Inhabited

namespace Glyph

/-- The glyphs of a text: its characters. -/
def ofText (s : String) : List Glyph := s.toList.map .char

/-- How many bytes the glyph takes. -/
def width : Glyph → Nat
  | char c => c.utf8Size
  | stray n => n

/-- The character, with the replacement character for a stray glyph. -/
def replaced : Glyph → Char
  | char c => c
  | stray _ => '\ufffd'

/-- Whether `b` continues a character that began earlier. -/
def isTail (b : UInt8) : Bool := 0x80 ≤ b && b ≤ 0xbf

/-- The least and the greatest second byte after this first byte of three or four. -/
def secondRange (first : UInt8) : UInt8 × UInt8 :=
  if first = 0xe0 then (0xa0, 0xbf)
  else if first = 0xed then (0x80, 0x9f)
  else if first = 0xf0 then (0x90, 0xbf)
  else if first = 0xf4 then (0x80, 0x8f)
  else (0x80, 0xbf)

/-- The six payload bits of a tail byte. -/
def tailBits (b : UInt8) : Nat := (b &&& 0x3f).toNat

/-- The first glyph of `first :: rest`, and how many bytes of `rest` it takes. -/
def decodeHead (first : UInt8) (rest : List UInt8) : Glyph × Nat :=
  if first < 0x80 then (char (Char.ofNat first.toNat), 0)
  else if 0xc2 ≤ first ∧ first ≤ 0xdf then
    match rest with
    | b :: _ =>
      if isTail b then (char (Char.ofNat ((first &&& 0x1f).toNat * 64 + tailBits b)), 1)
      else (stray 1, 0)
    | [] => (stray 1, 0)
  else if 0xe0 ≤ first ∧ first ≤ 0xef then
    let (low, high) := secondRange first
    match rest with
    | b :: rest =>
      if low ≤ b ∧ b ≤ high then
        match rest with
        | c :: _ =>
          if isTail c then
            (char (Char.ofNat (((first &&& 0x0f).toNat * 64 + tailBits b) * 64 + tailBits c)), 2)
          else (stray 2, 1)
        | [] => (stray 2, 1)
      else (stray 1, 0)
    | [] => (stray 1, 0)
  else if 0xf0 ≤ first ∧ first ≤ 0xf4 then
    let (low, high) := secondRange first
    match rest with
    | b :: rest =>
      if low ≤ b ∧ b ≤ high then
        match rest with
        | c :: rest =>
          if isTail c then
            match rest with
            | d :: _ =>
              if isTail d then
                (char (Char.ofNat ((((first &&& 0x07).toNat * 64 + tailBits b) * 64 + tailBits c) * 64
                  + tailBits d)), 3)
              else (stray 3, 2)
            | [] => (stray 3, 2)
          else (stray 2, 1)
        | [] => (stray 2, 1)
      else (stray 1, 0)
    | [] => (stray 1, 0)
  else (stray 1, 0)

/-- Reads glyph after glyph, in front of those in `done`, which are latest first. -/
def decodeAll (done : List Glyph) : List UInt8 → List Glyph
  | [] => done.reverse
  | first :: rest =>
    let (g, n) := decodeHead first rest
    decodeAll (g :: done) (rest.drop n)
termination_by bytes => bytes.length
decreasing_by simp only [List.length_drop, List.length_cons]; omega

/-- The bytes read as UTF-8. -/
def ofBytes (bytes : ByteArray) : List Glyph :=
  match String.fromUTF8? bytes with
  | some s => ofText s
  | none => decodeAll [] bytes.toList

/-- The bytes of a text encode it. -/
theorem fromUTF8?_toUTF8 (s : String) : String.fromUTF8? s.toUTF8 = some s := by
  unfold String.fromUTF8?
  rw [dif_pos (show s.toUTF8.IsValidUTF8 from s.isValidUTF8)]
  rfl

theorem ofBytes_toUTF8 (s : String) : ofBytes s.toUTF8 = ofText s := by
  unfold ofBytes
  rw [fromUTF8?_toUTF8]

end Glyph

/-- The text of the bytes, with the replacement character where they encode none. -/
def lossyText (bytes : ByteArray) : String := String.ofList ((Glyph.ofBytes bytes).map Glyph.replaced)

end Kennel
