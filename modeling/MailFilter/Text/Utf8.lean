/-
UTF-8: the bytes of a text, and a reader that puts the replacement character in place of every
longest ill-formed part.
-/
namespace MailFilter.Text

/-- The bytes of a text. -/
def utf8 (s : String) : List UInt8 :=
  s.toByteArray.toList

/-- The bytes that may follow a lead byte: how many there are, and the range of the first. -/
def tailsAfter (lead : Nat) : Option (Nat × Nat × Nat) :=
  if lead < 0x80 then some (0, 0, 0)
  else if lead < 0xC2 then none
  else if lead ≤ 0xDF then some (1, 0x80, 0xBF)
  else if lead = 0xE0 then some (2, 0xA0, 0xBF)
  else if lead = 0xED then some (2, 0x80, 0x9F)
  else if lead ≤ 0xEF then some (2, 0x80, 0xBF)
  else if lead = 0xF0 then some (3, 0x90, 0xBF)
  else if lead ≤ 0xF3 then some (3, 0x80, 0xBF)
  else if lead = 0xF4 then some (3, 0x80, 0x8F)
  else none

/-- The bits of a lead byte that belong to the character. -/
def leadBits (lead tails : Nat) : Nat :=
  match tails with
  | 0 => lead
  | 1 => lead % 32
  | 2 => lead % 16
  | _ => lead % 8

/-- What has been read of the character at hand: its bits, the bytes still owed and the range of
the next one. -/
structure Pending where
  bits : Nat
  owed : Nat
  lo : Nat
  hi : Nat

/-- The replacement character. -/
def replacement : Char := '\uFFFD'

/-- Reads the first byte of a character: the character if it is complete, and what is `Pending`. -/
def readLead (lead : Nat) : List Char × Option Pending :=
  match tailsAfter lead with
  | none => ([replacement], none)
  | some (0, _, _) => ([Char.ofNat lead], none)
  | some (owed, lo, hi) => ([], some ⟨leadBits lead owed, owed, lo, hi⟩)

/-- Reads one byte: the characters it completes, and what is `Pending` after it. -/
def readByte (pending : Option Pending) (byte : UInt8) : List Char × Option Pending :=
  let b := byte.toNat
  match pending with
  | none => readLead b
  | some p =>
    if p.lo ≤ b && b ≤ p.hi then
      let bits := p.bits * 64 + b % 64
      if p.owed ≤ 1 then ([Char.ofNat bits], none) else ([], some ⟨bits, p.owed - 1, 0x80, 0xBF⟩)
    else
      let (cs, next) := readLead b
      (replacement :: cs, next)

/-- Reads bytes, putting the characters in front of `acc` in reverse order. -/
def readBytes (acc : List Char) (pending : Option Pending) : List UInt8 → List Char
  | [] => (if pending.isSome then replacement :: acc else acc).reverse
  | b :: bs =>
    let (cs, next) := readByte pending b
    readBytes (cs.reverse ++ acc) next bs

/-- The text of a sequence of bytes by `readBytes`, with U+FFFD for every longest ill-formed part. -/
def decodeLossy (bytes : List UInt8) : String :=
  String.ofList (readBytes [] none bytes)

/-- The text of a well-formed sequence of bytes: the one whose `utf8` they are. -/
def decode? (bytes : List UInt8) : Option String :=
  let s := decodeLossy bytes
  if utf8 s == bytes then some s else none

/-- The number of bytes of a character. -/
def utf8Size (c : Char) : Nat :=
  if c.toNat < 0x80 then 1 else if c.toNat < 0x800 then 2 else if c.toNat < 0x10000 then 3 else 4

/-- The number of bytes of a text, `utf8Size` for each character. -/
def byteCount (cs : List Char) : Nat :=
  cs.foldl (fun n c => n + utf8Size c) 0

end MailFilter.Text
