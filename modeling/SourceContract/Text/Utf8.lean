/-!
# Bytes as text

Any bytes can be read as text: valid UTF-8 is decoded, and each maximal part that
starts no valid character is read as one replacement character.
-/

namespace SourceContract.Text.Utf8

def replacement : Char := Char.ofNat 0xFFFD

/-! ## Bytes of a character -/

def isTail (b : UInt8) : Bool := 0x80 ≤ b && b ≤ 0xBF

def sizeOfLead (lead : UInt8) : Nat :=
  if lead < 0x80 then 1
  else if 0xC2 ≤ lead && lead ≤ 0xDF then 2
  else if 0xE0 ≤ lead && lead ≤ 0xEF then 3
  else if 0xF0 ≤ lead && lead ≤ 0xF4 then 4
  else 0

/-- Whether `second` may follow `lead`: overlong forms, surrogates and values past the last code
point are ruled out by the second byte. -/
def mayFollow (lead second : UInt8) : Bool :=
  if lead == 0xE0 then 0xA0 ≤ second && second ≤ 0xBF
  else if lead == 0xED then 0x80 ≤ second && second ≤ 0x9F
  else if lead == 0xF0 then 0x90 ≤ second && second ≤ 0xBF
  else if lead == 0xF4 then 0x80 ≤ second && second ≤ 0x8F
  else isTail second

def tailBits (b : UInt8) : Nat := b.toNat % 64

def char2 (a b : UInt8) : Char := Char.ofNat (a.toNat % 32 * 64 + tailBits b)

def char3 (a b c : UInt8) : Char :=
  Char.ofNat ((a.toNat % 16 * 64 + tailBits b) * 64 + tailBits c)

def char4 (a b c d : UInt8) : Char :=
  Char.ofNat (((a.toNat % 8 * 64 + tailBits b) * 64 + tailBits c) * 64 + tailBits d)

/-! ## Decoding -/

def decodeBytes : List UInt8 → List Char
  | [] => []
  | a :: rest =>
      if sizeOfLead a = 0 then replacement :: decodeBytes rest
      else if sizeOfLead a = 1 then Char.ofNat a.toNat :: decodeBytes rest
      else
        match rest with
        | [] => [replacement]
        | b :: rest₂ =>
            if !mayFollow a b then replacement :: decodeBytes (b :: rest₂)
            else if sizeOfLead a = 2 then char2 a b :: decodeBytes rest₂
            else
              match rest₂ with
              | [] => [replacement]
              | c :: rest₃ =>
                  if !isTail c then replacement :: decodeBytes (c :: rest₃)
                  else if sizeOfLead a = 3 then char3 a b c :: decodeBytes rest₃
                  else
                    match rest₃ with
                    | [] => [replacement]
                    | d :: rest₄ =>
                        if !isTail d then replacement :: decodeBytes (d :: rest₄)
                        else char4 a b c d :: decodeBytes rest₄
termination_by bytes => bytes.length

def decode (bytes : ByteArray) : String :=
  match String.fromUTF8? bytes with
  | some s => s
  | none => String.ofList (decodeBytes bytes.toList)

end SourceContract.Text.Utf8
