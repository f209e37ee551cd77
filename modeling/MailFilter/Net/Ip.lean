/-
Internet addresses, of four and of sixteen bytes, and their written forms.
-/
import MailFilter.Data.Token
import MailFilter.Data.Printer

namespace MailFilter

/-- An address: the number that its bytes make. -/
inductive Ip where
  | v4 (value : Nat)
  | v6 (value : Nat)
  deriving DecidableEq, Repr

namespace Ip

/-! ### Writing -/

/-- Four bytes in decimal, divided by points. -/
def dotted (n : Nat) : String :=
  toString (n >>> 24 % 256) ++ "." ++ toString (n >>> 16 % 256) ++ "." ++
    toString (n >>> 8 % 256) ++ "." ++ toString (n % 256)

/-- A group of sixteen bits in hexadecimal, without leading zeros. -/
def groupText (n : Nat) : String :=
  String.ofList (Nat.toDigits 16 n)

/-- The eight groups of an address of sixteen bytes. -/
def groups (n : Nat) : List Nat :=
  (List.range 8).map fun i => n >>> (16 * (7 - i)) % 65536

/-- The `groupText` of each group, divided by colons. -/
def joined (gs : List Nat) : String :=
  ":".intercalate (gs.map groupText)

/-- The start and the length of the longest run of zero groups, the first of equally long ones. -/
def longestZeros (gs : List Nat) : Nat × Nat :=
  (List.range gs.length).foldl (fun best i =>
    let run := ((gs.drop i).takeWhile (· == 0)).length
    if best.2 < run then (i, run) else best) (0, 0)

/-- An address of sixteen bytes: the run of `longestZeros` is left out, and the last four bytes are in
decimal where they hold an address of four. -/
def colons (n : Nat) : String :=
  let gs := groups n
  if gs.take 6 = [0, 0, 0, 0, 0, 65535] then "::ffff:" ++ dotted n
  else
    let (start, length) := longestZeros gs
    if 1 < length then joined (gs.take start) ++ "::" ++ joined (gs.drop (start + length))
    else joined gs

/-- The written form of an address: `dotted`, or with `colons`. -/
def text : Ip → String
  | v4 n => dotted n
  | v6 n => colons n

/-! ### Reading -/

/-- Which written forms are read: whether a number may have leading zeros, and whether `::` may
stand for no group at all. -/
structure Form where
  leadingZeros : Bool
  emptyGap : Bool

/-- The `Form` of single addresses. -/
def Form.address : Form := ⟨false, false⟩

/-- The `Form` of addresses in networks. -/
def Form.network : Form := ⟨true, true⟩

/-- Reads digits to a base, at most `max` of them. -/
def readDigits (base max : Nat) (cs : List Char) : Option (Nat × List Char) :=
  let isDigit : Char → Bool := fun c => (Data.hexValue? c).any (· < base)
  let ds := cs.takeWhile isDigit
  if ds.isEmpty || max < ds.length then none
  else some (ds.foldl (fun n c => n * base + (Data.hexValue? c).getD 0) 0, cs.dropWhile isDigit)

/-- Reads a byte in decimal, in a `form` that may have leading zeros. -/
def readByte (form : Form) (cs : List Char) : Option (Nat × List Char) := do
  let (n, rest) ← readDigits 10 3 cs
  let padded := cs.head? = some '0' && (cs.length - rest.length) ≠ 1
  if n < 256 && (form.leadingZeros || !padded) then some (n, rest) else none

/-- Reads the character `c`. -/
def readChar (c : Char) : List Char → Option (List Char)
  | d :: rest => if d = c then some rest else none
  | [] => none

/-- Reads four bytes divided by points, each with `readByte`. -/
def readDotted (form : Form) (cs : List Char) : Option (Nat × List Char) := do
  let (a, cs) ← readByte form cs
  let (b, cs) ← readByte form (← readChar '.' cs)
  let (c, cs) ← readByte form (← readChar '.' cs)
  let (d, cs) ← readByte form (← readChar '.' cs)
  some (((a * 256 + b) * 256 + c) * 256 + d, cs)

/-- Reads up to `limit` groups after `count` that are read already. The last two may be four bytes
in decimal. Yields the groups, whether they end in decimal, and the rest. -/
def readGroups (form : Form) (count : Nat) : Nat → List Char → List Nat × Bool × List Char
  | 0, cs => ([], false, cs)
  | limit + 1, cs =>
    let start := if count = 0 then some cs else readChar ':' cs
    let decimal := if 0 < limit then start.bind (readDotted form) else none
    match decimal with
    | some (n, rest) => ([n / 65536, n % 65536], true, rest)
    | none =>
      match start.bind (readDigits 16 4) with
      | some (g, rest) =>
        let (gs, dotted, rest) := readGroups form (count + 1) limit rest
        (g :: gs, dotted, rest)
      | none => ([], false, cs)

/-- The number that the groups `gs` make: the reverse of `groups`. -/
def ofGroups (gs : List Nat) : Nat :=
  gs.foldl (fun n g => n * 65536 + g) 0

/-- Reads an address of sixteen bytes, by `readGroups` before and after a gap. -/
def readColons (form : Form) (cs : List Char) : Option (Nat × List Char) := do
  let (front, dotted, rest) := readGroups form 0 8 cs
  if front.length = 8 then some (ofGroups front, rest)
  else if dotted then none
  else
    let rest ← readChar ':' rest
    let rest ← readChar ':' rest
    let room := 8 - front.length
    let (back, _, rest) := readGroups form 0 (if form.emptyGap then room else room - 1) rest
    let gap := List.replicate (8 - front.length - back.length) 0
    some (ofGroups (front ++ gap ++ back), rest)

/-- Reads an address that makes up the whole text, by `readDotted` or `readColons`. -/
def parse? (s : String) : Option Ip :=
  match readDotted .address s.toList with
  | some (n, []) => some (v4 n)
  | _ =>
    match readColons .address s.toList with
    | some (n, []) => some (v6 n)
    | _ => none

end Ip

/-- A network: an address and the number of leading bits that its members share with it. -/
structure Network where
  address : Ip
  length : Nat
  deriving DecidableEq, Repr

namespace Network

/-- The written form of a `Network`; bits after the shared ones are kept. -/
def text (net : Network) : String :=
  net.address.text ++ "/" ++ toString net.length

/-- Whether two numbers of `width` bits have the same first `length` bits. -/
def agree (width length a b : Nat) : Bool :=
  a >>> (width - length) == b >>> (width - length)

/-- Whether the network holds the address `ip`, so that they `agree`; one of the other size is in no case
held. -/
def contains (net : Network) (ip : Ip) : Bool :=
  match net.address, ip with
  | .v4 a, .v4 b => agree 32 net.length a b
  | .v6 a, .v6 b => agree 128 net.length a b
  | _, _ => false

/-- Reads the length of a network of `width` bits, which ends the text. -/
def readLength (digits width : Nat) (cs : List Char) : Option Nat := do
  let cs ← Ip.readChar '/' cs
  match Ip.readDigits 10 digits cs with
  | some (n, []) => if n ≤ width then some n else none
  | _ => none

/-- Reads a `Network`: an address in the form of `Form.network`, and a length by `readLength`. -/
def parse? (s : String) : Option Network :=
  let small := do
    let (n, rest) ← Ip.readDotted .network s.toList
    some (Network.mk (.v4 n) (← readLength 2 32 rest))
  match small with
  | some net => some net
  | none => do
    let (n, rest) ← Ip.readColons .network s.toList
    some ⟨.v6 n, ← readLength 3 128 rest⟩

end Network

end MailFilter
