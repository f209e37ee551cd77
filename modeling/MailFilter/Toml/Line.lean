/-
Blanks, comments and line ends of TOML text.

A reader takes what it reads from the front of a text and yields the rest.
-/
namespace MailFilter.Toml

/-- Something that reads from the front of a text. -/
abbrev Reader (α : Type) := List Char → Option (α × List Char)

/-- A blank within a line. -/
def isSpace (c : Char) : Bool :=
  c = ' ' || c = '\t'

/-- Whether a character may stand in a comment or a text: any but control characters; a tab is
none. -/
def isPrintable (c : Char) : Bool :=
  c = '\t' || (32 ≤ c.toNat && c.toNat ≠ 127)

/-- Leaves out blanks, characters with `isSpace`. -/
def skipSpaces (cs : List Char) : List Char :=
  cs.dropWhile isSpace

/-- Leaves out a comment, which is all characters with `isPrintable` after its mark. -/
def skipComment (cs : List Char) : List Char :=
  match cs with
  | '#' :: rest => rest.dropWhile isPrintable
  | _ => cs

/-- The text after a line end. -/
def newline? : List Char → Option (List Char)
  | '\n' :: rest => some rest
  | '\r' :: '\n' :: rest => some rest
  | _ => none

theorem length_of_newline? {cs rest : List Char} (h : newline? cs = some rest) :
    rest.length < cs.length := by
  unfold newline? at h
  split at h
  · cases h
    simp
  · cases h
    simp only [List.length_cons]
    omega
  · cases h

theorem length_skipSpaces_le (cs : List Char) : (skipSpaces cs).length ≤ cs.length :=
  (List.dropWhile_sublist _).length_le

theorem length_skipComment_le (cs : List Char) : (skipComment cs).length ≤ cs.length := by
  unfold skipComment
  split
  · exact Nat.le_succ_of_le (List.dropWhile_sublist _).length_le
  · exact Nat.le_refl _

/-- The text after the rest of a line that holds nothing more, a comment for `skipComment` apart. -/
def endLine? (cs : List Char) : Option (List Char) :=
  match skipComment (skipSpaces cs) with
  | [] => some []
  | rest => newline? rest

/-- Leaves out blanks, comments and line ends, by `skipSpaces`, `skipComment` and `newline?`. -/
def skipLines (cs : List Char) : List Char :=
  match _h : newline? (skipComment (skipSpaces cs)) with
  | some rest => skipLines rest
  | none => skipSpaces cs
termination_by cs.length
decreasing_by
  have := length_of_newline? _h
  have := length_skipComment_le (skipSpaces cs)
  have := length_skipSpaces_le cs
  omega

end MailFilter.Toml
