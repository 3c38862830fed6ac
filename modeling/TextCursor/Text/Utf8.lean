import TextCursor.Text.Numeral

/-! Strict UTF-8. The bytes of one character are gathered until they complete
it; the first byte that no character continues with ends the reading, and the
report names exactly the bytes gathered before it. -/
namespace TextCursor.Utf8

def isLead (b : UInt8) : Bool := 0xc2 ≤ b && b ≤ 0xf4

def isTail (b : UInt8) : Bool := 0x80 ≤ b && b ≤ 0xbf

/-- Four leads allow fewer second bytes, which keeps out overlong forms,
surrogates and codes above the last. -/
def isSecond (lead b : UInt8) : Bool :=
  if lead = 0xe0 then 0xa0 ≤ b && b ≤ 0xbf
  else if lead = 0xed then 0x80 ≤ b && b ≤ 0x9f
  else if lead = 0xf0 then 0x90 ≤ b && b ≤ 0xbf
  else if lead = 0xf4 then 0x80 ≤ b && b ≤ 0x8f
  else isTail b

inductive Sequence where
  | complete (char : Char)
  | unfinished
  | illFormed
  deriving DecidableEq

def tailBits (b : UInt8) : Nat := b.toNat - 0x80

def classify : List UInt8 → Sequence
  | [a] =>
    if a ≤ 0x7f then .complete (Char.ofNat a.toNat)
    else if isLead a then .unfinished
    else .illFormed
  | [a, b] =>
    if !(isLead a && isSecond a b) then .illFormed
    else if a ≤ 0xdf then .complete (Char.ofNat ((a.toNat - 0xc0) * 0x40 + tailBits b))
    else .unfinished
  | [a, b, c] =>
    if !(0xe0 ≤ a && isLead a && isSecond a b && isTail c) then .illFormed
    else if a ≤ 0xef then
      .complete (Char.ofNat ((a.toNat - 0xe0) * 0x1000 + tailBits b * 0x40 + tailBits c))
    else .unfinished
  | [a, b, c, d] =>
    if 0xf0 ≤ a && isLead a && isSecond a b && isTail c && isTail d then
      .complete (Char.ofNat ((a.toNat - 0xf0) * 0x40000 + tailBits b * 0x1000 +
        tailBits c * 0x40 + tailBits d))
    else .illFormed
  | _ => .illFormed

inductive Reason where
  | invalidStart
  | invalidContinuation
  | unexpectedEnd
  deriving DecidableEq

def Reason.message : Reason → Text
  | .invalidStart => "invalid start byte".toList
  | .invalidContinuation => "invalid continuation byte".toList
  | .unexpectedEnd => "unexpected end of data".toList

structure Malformed where
  start : Nat
  count : Nat
  lead : UInt8
  reason : Reason
  deriving DecidableEq

namespace Malformed

def stop (m : Malformed) : Nat := m.start + m.count

def message (m : Malformed) : Text :=
  let place :=
    if m.count = 1 then
      "byte 0x".toList ++ Text.hex 2 m.lead.toNat ++ " in position ".toList ++ Text.ofNat m.start
    else
      "bytes in position ".toList ++ Text.ofNat m.start ++ '-' :: Text.ofNat (m.stop - 1)
  "'utf-8' codec can't decode ".toList ++ place ++ ": ".toList ++ m.reason.message

end Malformed

/-- Reads on at offset `start + gathered.length`, with `gathered` the bytes so
far of the character that begins at `start`. -/
def decodeFrom (start : Nat) (gathered : List UInt8) : List UInt8 → Except Malformed Text
  | [] =>
    match gathered with
    | [] => .ok []
    | lead :: _ => .error ⟨start, gathered.length, lead, .unexpectedEnd⟩
  | byte :: rest =>
    match classify (gathered ++ [byte]) with
    | .complete char => do
      return char :: (← decodeFrom (start + gathered.length + 1) [] rest)
    | .unfinished => decodeFrom start (gathered ++ [byte]) rest
    | .illFormed =>
      match gathered with
      | [] => .error ⟨start, 1, byte, .invalidStart⟩
      | lead :: _ => .error ⟨start, gathered.length, lead, .invalidContinuation⟩

def decode (bytes : List UInt8) : Except Malformed Text := decodeFrom 0 [] bytes

def encode (s : Text) : List UInt8 := s.flatMap String.utf8EncodeChar

end TextCursor.Utf8
