/-
TOML documents: keys, values and lines.

A value may hold values down to a fixed depth. What is neither a text nor a list nor a table is a
word: a truth value, a date or time, or a number.
-/
import MailFilter.Toml.Moment
import MailFilter.Toml.Number
import MailFilter.Toml.Quoted
import MailFilter.Toml.Section

namespace MailFilter.Toml

/-- How deep values may be nested, and how many parts a key may have. -/
def maxDepth : Nat := 80

/-! ### Keys -/

/-- A character of a key without quotes. -/
def isKeyChar (c : Char) : Bool :=
  c.isAlphanum || c = '_' || c = '-'

/-- Reads one part of a key: characters with `isKeyChar`, or a text with `readShort`. -/
def readPart : Reader String := fun cs =>
  let bare := cs.takeWhile isKeyChar
  if bare.isEmpty then readShort cs
  else some (String.ofList bare, cs.dropWhile isKeyChar)

/-- Reads the parts of a key with points between them, and the blanks around them, each
by `readPart`. -/
def readParts : Nat → Reader (List String)
  | 0, _ => none
  | parts + 1, cs => do
    let (part, rest) ← readPart (skipSpaces cs)
    match skipSpaces rest with
    | '.' :: more => (readParts parts more).map fun (others, rest) => (part :: others, rest)
    | rest => some ([part], rest)

/-- Reads a key with `readParts`: the parts before the last one, and the last one. -/
def readKey : Reader (List String × String) := fun cs => do
  let (parts, rest) ← readParts (maxDepth - 1) cs
  let last ← parts.getLast?
  return ((parts.dropLast, last), rest)

/-! ### Words -/

/-- Whether a character may be part of a word. -/
def isWordChar (c : Char) : Bool :=
  c.isAlphanum || c = '+' || c = '-' || c = '_' || c = '.' || c = ':'

/-- Takes a word, of characters with `isWordChar`; a date may be followed by one blank and a time. -/
def takeWord (cs : List Char) : List Char × List Char :=
  let word := cs.takeWhile isWordChar
  let rest := cs.dropWhile isWordChar
  match readDate word, rest with
  | some (_, []), ' ' :: c :: more =>
    if c.isDigit then
      (word ++ ' ' :: (c :: more).takeWhile isWordChar, (c :: more).dropWhile isWordChar)
    else (word, rest)
  | _, _ => (word, rest)

/-- The value of a word: a truth value, a `moment?` or a number. -/
def word? (cs : List Char) : Option Json :=
  if cs = "true".toList then some (.bool true)
  else if cs = "false".toList then some (.bool false)
  else (moment? cs).map .text <|> (integer? cs).map .int <|> (float? cs).map .real

/-- Reads a word with `takeWord`, and its value. -/
def readWord : Reader Json := fun cs =>
  let (word, rest) := takeWord cs
  (word? word).map fun v => (v, rest)

/-! ### Lists and tables within a line -/

/-- Reads the values of a list up to its end, each with `item`; a comma may follow the last one. -/
def readItems (item : Reader Json) (cs : List Char) : Option (List Json × List Char) :=
  match skipLines cs with
  | ']' :: rest => some ([], rest)
  | start =>
    match item start with
    | none => none
    | some (x, rest) =>
      match skipLines rest with
      | ']' :: rest => some ([x], rest)
      | ',' :: rest =>
        if rest.length < cs.length then
          (readItems item rest).map fun (xs, rest) => (x :: xs, rest)
        else none
      | _ => none
termination_by cs.length

/-- Reads a key and its value, with `readKey` and `item`, and the blanks around them. -/
def readPair (item : Reader Json) : Reader ((List String × String) × Json) := fun cs => do
  let (key, rest) ← readKey cs
  match rest with
  | '=' :: more =>
    let (v, rest) ← item (skipSpaces more)
    return ((key, v), skipSpaces rest)
  | _ => none

/-- Reads the keys and values of a table up to its end, with `readPair`. -/
def readPairs (item : Reader Json) (s : Section) (cs : List Char) : Option (Section × List Char) :=
  match readPair item cs with
  | none => none
  | some (((path, key), v), rest) =>
    match s.addPair path key v .header, rest with
    | some s, '\x7d' :: rest => some (s, rest)
    | some s, ',' :: rest => if rest.length < cs.length then readPairs item s rest else none
    | _, _ => none
termination_by cs.length

/-- Reads a table within a line with `readPairs`, its opening brace being gone. -/
def readTable (item : Reader Json) : Reader Json := fun cs =>
  match skipSpaces cs with
  | '\x7d' :: rest => some (.object [], rest)
  | _ => (readPairs item [] cs).map fun (s, rest) => (.object (Entry.entriesToData s), rest)

/-- Reads a value that may be nested to a depth: a list by `readItems`, a table by `readTable`, a text or
a word. -/
def readValue : Nat → Reader Json
  | 0, _ => none
  | depth + 1, cs =>
    match cs with
    | '[' :: rest => (readItems (readValue depth) rest).map fun (xs, rest) => (.list xs, rest)
    | '\x7b' :: rest => readTable (readValue depth) rest
    | '"' :: _ | '\'' :: _ => (readText cs).map fun (s, rest) => (.text s, rest)
    | _ => readWord cs

/-! ### Documents -/

/-- A document while it is being read: all tables, and the name of the one that a header has
opened last. -/
structure Document where
  root : Section := []
  current : List String := []

namespace Document

/-- Adds a value to the table that is open, by `Section.addPair`. -/
def addPair (d : Document) (path : List String) (key : String) (v : Json) : Option Document :=
  (Section.within false (Section.addPair path key v) d.current .header d.root).map fun root =>
    { d with root }

/-- Opens a table by its header. -/
def openHeader (d : Document) (path : List String) (key : String)
    (change : String → Section → Option Section) : Option Document :=
  (Section.within false (fun _ s => change key s) path .header d.root).map fun root =>
    { root, current := path ++ [key] }

/-- Reads a line that holds something: a header, or a pair by `readPair`. -/
def readLine (d : Document) : Reader Document
  | '[' :: '[' :: rest => do
    let ((path, key), rest) ← readKey rest
    match rest with
    | ']' :: ']' :: rest =>
      return (← d.openHeader path key Section.openNext, ← endLine? rest)
    | _ => none
  | '[' :: rest => do
    let ((path, key), rest) ← readKey rest
    match rest with
    | ']' :: rest => return (← d.openHeader path key Section.openTable, ← endLine? rest)
    | _ => none
  | cs => do
    let (((path, key), v), rest) ← readPair (readValue maxDepth) cs
    return (← d.addPair path key v, ← endLine? rest)

/-- Reads lines to the end, with `readLine`. -/
def readAll (d : Document) (cs : List Char) : Option Document :=
  match skipLines cs with
  | [] => some d
  | '#' :: rest => if (skipComment ('#' :: rest)).isEmpty then some d else none
  | start =>
    match d.readLine start with
    | some (d, rest) => if rest.length < cs.length then d.readAll rest else none
    | none => none
termination_by cs.length

end Document

/-- The data in a TOML document, if it is well-formed: `Document.readAll` reads it. A mark of the byte
order may stand in front. -/
def parse? (s : String) : Option Json :=
  let cs := match s.toList with
    | '\uFEFF' :: rest => rest
    | cs => cs
  (Document.readAll {} cs).map fun d => .object (Entry.entriesToData d.root)

end MailFilter.Toml
