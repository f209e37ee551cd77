/-
Texts in TOML: between quotes, where a backslash starts an escape, or between apostrophes, where
nothing does; either kind may go over several lines if its delimiter stands three times.
-/
import MailFilter.Data.Token
import MailFilter.Toml.Line

namespace MailFilter.Toml

/-! ### Escapes -/

/-- The number that hexadecimal digits stand for. -/
def hexNumber? (cs : List Char) : Option Nat :=
  cs.foldl (fun acc c => acc.bind fun n => (Data.hexValue? c).map (16 * n + ·)) (some 0)

/-- Reads a character given by so many hexadecimal `digits`. -/
def readCodePoint (digits : Nat) : Reader Char := fun cs =>
  if cs.length < digits then none
  else (hexNumber? (cs.take digits)).bind fun n =>
    if n.isValidChar then some (Char.ofNat n, cs.drop digits) else none

/-- Reads what follows a backslash: one character, or the digits for `readCodePoint`. -/
def readEscape : Reader Char
  | 'b' :: rest => some ('\x08', rest)
  | 't' :: rest => some ('\t', rest)
  | 'n' :: rest => some ('\n', rest)
  | 'f' :: rest => some ('\x0c', rest)
  | 'r' :: rest => some ('\r', rest)
  | '"' :: rest => some ('"', rest)
  | '\\' :: rest => some ('\\', rest)
  | 'u' :: rest => readCodePoint 4 rest
  | 'U' :: rest => readCodePoint 8 rest
  | _ => none

/-- What remains of a text after a backslash at the end of a line: all blanks and line ends are
left out. -/
def joinLines? (cs : List Char) : Option (List Char) :=
  (newline? (skipSpaces cs)).map fun rest => dropBlank rest
where
  dropBlank : List Char → List Char
    | '\r' :: '\n' :: rest => dropBlank rest
    | c :: rest => if c = '\n' || isSpace c then dropBlank rest else c :: rest
    | [] => []

theorem length_of_readCodePoint {digits : Nat} {cs rest : List Char} {c : Char}
    (h : readCodePoint digits cs = some (c, rest)) : rest.length ≤ cs.length := by
  unfold readCodePoint at h
  split at h
  · cases h
  · obtain ⟨n, _, h⟩ := Option.bind_eq_some_iff.1 h
    split at h
    · cases h
      simp
    · cases h

theorem length_of_readEscape {cs rest : List Char} {c : Char}
    (h : readEscape cs = some (c, rest)) : rest.length < cs.length := by
  unfold readEscape at h
  split at h
  case h_8 | h_9 => exact Nat.lt_succ_of_le (length_of_readCodePoint h)
  all_goals
    cases h
    try simp

theorem length_dropBlank_le (cs : List Char) : (joinLines?.dropBlank cs).length ≤ cs.length := by
  fun_induction joinLines?.dropBlank cs with
  | case1 => grind
  | case2 => grind
  | case3 => exact Nat.le_refl _
  | case4 => exact Nat.le_refl _

theorem length_of_joinLines? {cs rest : List Char} (h : joinLines? cs = some rest) :
    rest.length < cs.length := by
  unfold joinLines? at h
  obtain ⟨more, hm, rfl⟩ := Option.map_eq_some_iff.1 h
  have := length_of_newline? hm
  have := length_skipSpaces_le cs
  have := length_dropBlank_le more
  omega

/-! ### One line -/

/-- Reads up to the closing `delimiter`, with the characters read so far last first. -/
def readInLine (delimiter : Char) (escapes : Bool) (read : List Char) (cs : List Char) :
    Option (String × List Char) :=
  match cs with
  | [] => none
  | c :: rest =>
    if c = delimiter then some (String.ofList read.reverse, rest)
    else if escapes && c = '\\' then
      match _h : readEscape rest with
      | some (d, more) => readInLine delimiter escapes (d :: read) more
      | none => none
    else if isPrintable c then readInLine delimiter escapes (c :: read) rest
    else none
termination_by cs.length
decreasing_by
  · exact Nat.lt_succ_of_lt (length_of_readEscape _h)
  · simp

/-! ### Several lines -/

/-- Ends a text at a run of at least three of the `delimiter`; up to two belong to the text. -/
def closeLines (delimiter : Char) (read : List Char) (cs : List Char) :
    Option (String × List Char) :=
  let run := (cs.takeWhile (· = delimiter)).length
  if 5 < run then none
  else some (String.ofList (List.replicate (run - 3) delimiter ++ read).reverse, cs.drop run)

/-- Reads up to three closing delimiters, which `closeLines` takes, with the characters read so far last
first. -/
def readLines (delimiter : Char) (escapes : Bool) (read : List Char) (cs : List Char) :
    Option (String × List Char) :=
  if [delimiter, delimiter, delimiter].isPrefixOf cs then closeLines delimiter read cs
  else
    match _h : newline? cs with
    | some rest => readLines delimiter escapes ('\n' :: read) rest
    | none =>
      match cs with
      | [] => none
      | c :: rest =>
        if escapes && c = '\\' then
          match _h : joinLines? rest with
          | some more => readLines delimiter escapes read more
          | none =>
            match _h : readEscape rest with
            | some (d, more) => readLines delimiter escapes (d :: read) more
            | none => none
        else if isPrintable c then readLines delimiter escapes (c :: read) rest
        else none
termination_by cs.length
decreasing_by
  · exact length_of_newline? _h
  · exact Nat.lt_succ_of_lt (length_of_joinLines? _h)
  · exact Nat.lt_succ_of_lt (length_of_readEscape _h)
  · simp

/-- Reads a text over several lines with `readLines`, its opening delimiters being gone; a line end right
after them does not count. -/
def readFirstLines (delimiter : Char) (escapes : Bool) : Reader String := fun cs =>
  readLines delimiter escapes [] ((newline? cs).getD cs)

/-! ### Either kind -/

/-- Reads a text of one line with `readInLine`. -/
def readShort : Reader String
  | '"' :: rest => readInLine '"' true [] rest
  | '\'' :: rest => readInLine '\'' false [] rest
  | _ => none

/-- Reads a text, with `readFirstLines` or `readShort`. -/
def readText : Reader String
  | '"' :: '"' :: '"' :: rest => readFirstLines '"' true rest
  | '\'' :: '\'' :: '\'' :: rest => readFirstLines '\'' false rest
  | cs => readShort cs

end MailFilter.Toml
