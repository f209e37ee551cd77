/-
Sequences of bytes as data: a text if they are one, else their hexadecimal digits.
-/
import MailFilter.Data.Printer
import MailFilter.Data.Token
import MailFilter.Text.Utf8

namespace MailFilter.Data

/-- The bytes that pairs of hexadecimal digits stand for. -/
def hexPairs : List Char → Option (List UInt8)
  | [] => some []
  | [_] => none
  | a :: b :: rest => do
    let high ← hexValue? a
    let low ← hexValue? b
    return UInt8.ofNat (high * 16 + low) :: (← hexPairs rest)

/-- The bytes of a text, of digits, or of a text repeated. -/
def asBytes? : Json → Option (List UInt8)
  | text s => some (Text.utf8 s)
  | object fields =>
    match Fields.find? "hex" fields, Fields.find? "text" fields, Fields.find? "times" fields with
    | some (text digits), _, _ => hexPairs digits.toList
    | _, some (text s), some (int n) => some (List.replicate n.toNat (Text.utf8 s)).flatten
    | _, _, _ => none
  | _ => none

/-- The digits of a byte. -/
def hexOfByte (b : UInt8) : List Char :=
  [hexDigit (b.toNat / 16), hexDigit (b.toNat % 16)]

/-- Bytes as data. -/
def ofBytes (bytes : List UInt8) : Json :=
  match Text.decode? bytes with
  | some s => text s
  | none => object [("hex", text (String.ofList (bytes.flatMap hexOfByte)))]

end MailFilter.Data
