import CallStubs.Text

namespace CallStubs.Utf8

def encode (t : Text) : List UInt8 :=
  t.flatMap String.utf8EncodeChar

/-- A character of which the first bytes were read: how many are left, the bits so far, and the bounds for
the next byte. -/
structure Partial where
  left : Nat
  bits : Nat
  low : UInt8
  high : UInt8

/-- The start of a character of more than one byte. Overlong forms, surrogates and what lies beyond the
last code point are ruled out by the second byte. -/
def Partial.start? (b : UInt8) : Option Partial :=
  if 0xC2 ≤ b ∧ b ≤ 0xDF then some ⟨1, b.toNat % 32, 0x80, 0xBF⟩
  else if b = 0xE0 then some ⟨2, 0, 0xA0, 0xBF⟩
  else if b = 0xED then some ⟨2, 13, 0x80, 0x9F⟩
  else if 0xE1 ≤ b ∧ b ≤ 0xEF then some ⟨2, b.toNat % 16, 0x80, 0xBF⟩
  else if b = 0xF0 then some ⟨3, 0, 0x90, 0xBF⟩
  else if b = 0xF4 then some ⟨3, 4, 0x80, 0x8F⟩
  else if 0xF1 ≤ b ∧ b ≤ 0xF3 then some ⟨3, b.toNat % 8, 0x80, 0xBF⟩
  else none

def chars (p : Option Partial) : List UInt8 → List (Option Char)
  | [] => if p.isSome then [none] else []
  | b :: bs =>
    let fresh :=
      if b < 0x80 then some (Char.ofNat b.toNat) :: chars none bs
      else
        match Partial.start? b with
        | some q => chars (some q) bs
        | none => none :: chars none bs
    match p with
    | none => fresh
    | some q =>
      if q.low ≤ b ∧ b ≤ q.high then
        let bits := q.bits * 64 + b.toNat % 64
        if q.left ≤ 1 then some (Char.ofNat bits) :: chars none bs
        else chars (some ⟨q.left - 1, bits, 0x80, 0xBF⟩) bs
      else none :: fresh

def decode? (bs : List UInt8) : Option Text :=
  (chars none bs).mapM id

def decodeLossy (bs : List UInt8) : Text :=
  (chars none bs).map (·.getD '\ufffd')

end CallStubs.Utf8
