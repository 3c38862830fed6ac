import TextCursor.Text.Utf8
import Mathlib.Order.Bounds.Basic

/-! Which bytes are UTF-8, stated without decoding them. A sequence is well formed if it
spells the code of a character and no shorter sequence does. Where bytes are not composed of
such sequences there is a first one that is bad. -/
namespace TextCursor.Utf8

/-- A lead byte tells how many bytes follow it and holds the highest bits of the
code; each byte that follows holds six more. Every code below 2 ^ 21 has a spelling. -/
inductive Spells : List UInt8 → Nat → Prop
  | one (a : UInt8) (lead : a.toNat < 0x80) : Spells [a] a.toNat
  | two (a b : UInt8) (lead : 0xc0 ≤ a.toNat ∧ a.toNat < 0xe0)
      (second : 0x80 ≤ b.toNat ∧ b.toNat < 0xc0) :
      Spells [a, b] ((a.toNat - 0xc0) * 0x40 + (b.toNat - 0x80))
  | three (a b c : UInt8) (lead : 0xe0 ≤ a.toNat ∧ a.toNat < 0xf0)
      (second : 0x80 ≤ b.toNat ∧ b.toNat < 0xc0) (third : 0x80 ≤ c.toNat ∧ c.toNat < 0xc0) :
      Spells [a, b, c]
        ((a.toNat - 0xe0) * 0x1000 + (b.toNat - 0x80) * 0x40 + (c.toNat - 0x80))
  | four (a b c d : UInt8) (lead : 0xf0 ≤ a.toNat ∧ a.toNat < 0xf8)
      (second : 0x80 ≤ b.toNat ∧ b.toNat < 0xc0) (third : 0x80 ≤ c.toNat ∧ c.toNat < 0xc0)
      (fourth : 0x80 ≤ d.toNat ∧ d.toNat < 0xc0) :
      Spells [a, b, c, d]
        ((a.toNat - 0xf0) * 0x40000 + (b.toNat - 0x80) * 0x1000 + (c.toNat - 0x80) * 0x40 +
          (d.toNat - 0x80))

def IsSequence (bytes : List UInt8) : Prop :=
  ∃ code, Spells bytes code ∧ (∀ other, Spells other code → bytes.length ≤ other.length) ∧
    code.isValidChar

inductive WellFormed : List UInt8 → Prop
  | nil : WellFormed []
  | append {sequence rest : List UInt8} (head : IsSequence sequence) (tail : WellFormed rest) :
      WellFormed (sequence ++ rest)

def BeginsSequence (bytes : List UInt8) : Prop :=
  ∃ missing, missing ≠ [] ∧ IsSequence (bytes ++ missing)

/-- The first bad sequence among the bytes, and what is wrong with it. -/
structure Malformed.Describes (m : Malformed) (bytes : List UInt8) : Prop where
  start_lt_stop : m.start < m.stop
  stop_le_length : m.stop ≤ bytes.length
  count_le : m.count ≤ 3
  lead_eq : bytes[m.start]? = some m.lead
  start_isGreatest :
    IsGreatest {size | size ≤ bytes.length ∧ WellFormed (bytes.take size)} m.start
  of_invalidStart : m.reason = .invalidStart →
    m.stop = m.start + 1 ∧ ∀ rest, ¬WellFormed (m.lead :: rest)
  count_isGreatest : m.reason ≠ .invalidStart →
    IsGreatest {size | size ≤ (bytes.drop m.start).length ∧
      BeginsSequence ((bytes.drop m.start).take size)} m.count
  unexpectedEnd_iff : m.reason = .unexpectedEnd ↔ ∃ more, more ≠ [] ∧ WellFormed (bytes ++ more)
  of_unexpectedEnd : m.reason = .unexpectedEnd → m.stop = bytes.length

end TextCursor.Utf8
