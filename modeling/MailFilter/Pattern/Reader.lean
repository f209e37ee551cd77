/-
Patterns read from their written form.

The form is that of ordinary regular expressions: characters and classes of them, alternatives,
repetitions, groups, conditions on positions, and flags. There is no looking around and there are no
references back to groups.
-/
import MailFilter.Data.Token
import MailFilter.Number.Reading
import MailFilter.Pattern.Basic

namespace MailFilter

/-- A `Pattern` as it is written. -/
abbrev TextPattern := Pattern CharClass Assertion

/-- Why a text is no pattern. -/
inductive PatternFault where
  | unclosedGroup
  | unopenedGroup
  | unclosedClass
  | invalidRange
  | invalidClassItem
  | missingOperand
  | unclosedCount
  | invalidCount
  | invalidEscape
  | backReference
  | lookAround
  | invalidFlags
  | invalidName
  | unknownProperty
  | tooDeep
  deriving Repr, DecidableEq

namespace PatternFault

/-- What is wrong, in a few words. -/
def detail : PatternFault → String
  | unclosedGroup => "unclosed group"
  | unopenedGroup => "unopened group"
  | unclosedClass => "unclosed character class"
  | invalidRange => "invalid character class range"
  | invalidClassItem => "invalid item in a character class"
  | missingOperand => "repetition operator missing expression"
  | unclosedCount => "unclosed counted repetition"
  | invalidCount => "invalid repetition count"
  | invalidEscape => "unrecognized escape sequence"
  | backReference => "backreferences are not supported"
  | lookAround => "look-around is not supported"
  | invalidFlags => "invalid flags"
  | invalidName => "invalid capture group name"
  | unknownProperty => "Unicode property not found"
  | tooDeep => "exceeded the maximum number of nested parentheses/brackets"

/-- The words for a fault: a heading, and a line on what is wrong, its `detail`. -/
def message (f : PatternFault) : String :=
  "regex parse error:\n    error: " ++ f.detail

end PatternFault

namespace Pattern

/-- The flags in force at a place of a pattern. -/
structure Flags where
  caseless : Bool := false
  multiLine : Bool := false
  dotAll : Bool := false
  spaced : Bool := false
  wideLines : Bool := false

/-! ### Parts in common -/

/-- Leaves out a comment up to the end of its line. -/
def skipComment : List Char → List Char
  | [] => []
  | '\n' :: cs => cs
  | _ :: cs => skipComment cs

theorem length_skipComment_le (cs : List Char) : (skipComment cs).length ≤ cs.length := by
  fun_induction skipComment cs with
  | case1 => simp
  | case2 => simp
  | case3 _ _ _ ih => simp only [List.length_cons]; omega

/-- Leaves out blanks and comments where the `flags` say so. -/
def skipSpace (flags : Flags) (cs : List Char) : List Char :=
  if flags.spaced then go cs else cs
where
  go : List Char → List Char
    | [] => []
    | c :: cs =>
      if Text.isBlank c then go cs
      else if c = '#' then
        have := length_skipComment_le cs
        go (skipComment cs)
      else c :: cs
  termination_by cs => cs.length

/-- Reads digits as a number of 32 bits; blanks may stand around it. -/
def readCount (cs : List Char) : Except PatternFault (Nat × List Char) :=
  let cs := cs.dropWhile Text.isBlank
  let (digits, rest) := Number.spanDigits cs
  match digits, Number.digitsValue? digits with
  | [], _ => .error .invalidCount
  | _, some n => if n < UInt32.size then .ok (n, rest.dropWhile Text.isBlank) else .error .invalidCount
  | _, none => .error .invalidCount

/-- Whether a character has a meaning of its own in patterns. -/
def isMeta (c : Char) : Bool :=
  "\\.+*?()|[]\x7b\x7d^$#&-~".toList.contains c

/-- Whether a backslash before a character makes it stand for itself: it `isMeta`, or has no other
meaning. -/
def isEscapable (c : Char) : Bool :=
  isMeta c || (c.toNat < 128 && !c.isAlphanum && c ≠ '<' && c ≠ '>')

/-- The value of hexadecimal digits as a character. -/
def hexChar (digits : List Char) : Except PatternFault Char :=
  let value := digits.foldl (fun acc c => acc.bind fun n => (Data.hexValue? c).map (16 * n + ·))
    (if digits.isEmpty then none else some 0)
  match value with
  | some n => if n.isValidChar then .ok (Char.ofNat n) else .error .invalidEscape
  | none => .error .invalidEscape

/-- Reads the digits of a character given by its number: as many as `width`, or any number in braces. -/
def readHex (width : Nat) : List Char → Except PatternFault (Char × List Char)
  | '\x7b' :: cs =>
    let digits := cs.takeWhile (· ≠ '\x7d')
    match cs.drop digits.length with
    | _ :: rest => (hexChar digits).map fun c => (c, rest)
    | [] => .error .invalidEscape
  | cs =>
    if cs.length < width then .error .invalidEscape
    else (hexChar (cs.take width)).map fun c => (c, cs.drop width)

/-- What a single written item is. -/
inductive Item where
  | literal (c : Char)
  | class (c : CharClass)
  | look (a : Assertion)

/-- The word edges that are written with a name in braces. -/
def namedEdges : List (List Char × Assertion) :=
  [("\x7bstart\x7d".toList, .wordStart), ("\x7bend\x7d".toList, .wordEnd),
    ("\x7bstart-half\x7d".toList, .halfWordStart), ("\x7bend-half\x7d".toList, .halfWordEnd)]

/-- Reads what follows a backslash, as an `Item`. -/
def readEscape : List Char → Except PatternFault (Item × List Char)
  | [] => .error .invalidEscape
  | c :: cs =>
    if '0' ≤ c && c ≤ '9' then .error .backReference
    else match c with
      | 'x' => (readHex 2 cs).map fun (c, rest) => (.literal c, rest)
      | 'u' => (readHex 4 cs).map fun (c, rest) => (.literal c, rest)
      | 'U' => (readHex 8 cs).map fun (c, rest) => (.literal c, rest)
      | 'p' => .error .unknownProperty
      | 'P' => .error .unknownProperty
      | 'd' => .ok (.class .digit, cs)
      | 'D' => .ok (.class (.complement .digit), cs)
      | 's' => .ok (.class .space, cs)
      | 'S' => .ok (.class (.complement .space), cs)
      | 'w' => .ok (.class .word, cs)
      | 'W' => .ok (.class (.complement .word), cs)
      | 'a' => .ok (.literal '\x07', cs)
      | 'f' => .ok (.literal '\x0c', cs)
      | 't' => .ok (.literal '\t', cs)
      | 'n' => .ok (.literal '\n', cs)
      | 'r' => .ok (.literal '\r', cs)
      | 'v' => .ok (.literal '\x0b', cs)
      | 'A' => .ok (.look .textStart, cs)
      | 'z' => .ok (.look .textEnd, cs)
      | 'b' =>
        match namedEdges.find? fun e => e.1.isPrefixOf cs with
        | some (name, edge) => .ok (.look edge, cs.drop name.length)
        | none => .ok (.look .wordEdge, cs)
      | 'B' => .ok (.look .noWordEdge, cs)
      | '<' => .ok (.look .wordStart, cs)
      | '>' => .ok (.look .wordEnd, cs)
      | _ => if isEscapable c then .ok (.literal c, cs) else .error .invalidEscape

/-! ### Classes -/

/-- The classes that have names within brackets. -/
def namedClass? (name : String) : Option CharClass :=
  let ranges : Option (List (Char × Char)) := match name with
    | "alnum" => some [('0', '9'), ('A', 'Z'), ('a', 'z')]
    | "alpha" => some [('A', 'Z'), ('a', 'z')]
    | "ascii" => some [('\x00', '\x7f')]
    | "blank" => some [('\t', '\t'), (' ', ' ')]
    | "cntrl" => some [('\x00', '\x1f'), ('\x7f', '\x7f')]
    | "digit" => some [('0', '9')]
    | "graph" => some [('!', '~')]
    | "lower" => some [('a', 'z')]
    | "print" => some [(' ', '~')]
    | "punct" => some [('!', '/'), (':', '@'), ('[', '\x60'), ('\x7b', '~')]
    | "space" => some [('\t', '\r'), (' ', ' ')]
    | "upper" => some [('A', 'Z')]
    | "word" => some [('0', '9'), ('A', 'Z'), ('_', '_'), ('a', 'z')]
    | "xdigit" => some [('0', '9'), ('A', 'F'), ('a', 'f')]
    | _ => none
  ranges.map CharClass.ofRanges

/-- A class with the other cases of its characters, where the `flags` say so. -/
def fold (flags : Flags) (c : CharClass) : CharClass :=
  if flags.caseless then .caseless c else c

/-- A class, or its complement; the other cases are added first by `fold`. -/
def foldAndNegate (flags : Flags) (negated : Bool) (c : CharClass) : CharClass :=
  if negated then .complement (fold flags c) else fold flags c

/-- Reads a class named between `[:` and `:]`, if there is one. -/
def readNamedClass (flags : Flags) (cs : List Char) : Option (CharClass × List Char) :=
  match cs with
  | '[' :: ':' :: cs =>
    let (negated, cs) := match cs with
      | '^' :: rest => (true, rest)
      | _ => (false, cs)
    let name := cs.takeWhile (· ≠ ':')
    match cs.drop name.length with
    | ':' :: ']' :: rest =>
      (namedClass? (String.ofList name)).map fun c => (foldAndNegate flags negated c, rest)
    | _ => none
  | _ => none

/-- Operations on classes. -/
inductive ClassOp where
  | inter
  | except
  | onlyOne

/-- What is left of an operation that has been read, a `ClassOp`, with its first operand. -/
abbrev ClassLeft := Option (ClassOp × CharClass)

/-- Completes the operation in `left` with its second operand. -/
def completeOp (flags : Flags) (left : ClassLeft) (right : CharClass) : CharClass :=
  match left with
  | none => right
  | some (op, a) =>
    let a := fold flags a
    let b := fold flags right
    match op with
    | .inter => .inter a b
    | .except => .except a b
    | .onlyOne => .onlyOne a b

/-- The operation that a text starts with. -/
def readClassOp : List Char → Option (ClassOp × List Char)
  | '&' :: '&' :: cs => some (.inter, cs)
  | '-' :: '-' :: cs => some (.except, cs)
  | '~' :: '~' :: cs => some (.onlyOne, cs)
  | _ => none

/-- A class that has been opened: whether it is negated, and what has been read of it. -/
structure OpenClass where
  negated : Bool
  left : ClassLeft := none
  items : CharClass := .none

/-- Adds to the items of an `OpenClass`. -/
def OpenClass.add (o : OpenClass) (c : CharClass) : OpenClass :=
  { o with items := .union o.items c }

/-- The class that has been closed, by `completeOp` and `foldAndNegate`. -/
def OpenClass.close (flags : Flags) (o : OpenClass) : CharClass :=
  foldAndNegate flags o.negated (completeOp flags o.left o.items)

/-- Hyphens that stand for themselves because they come first. -/
def leadingHyphens (flags : Flags) (o : OpenClass) : Nat → List Char → OpenClass × List Char
  | 0, cs => (o, cs)
  | fuel + 1, cs =>
    match cs with
    | '-' :: rest => leadingHyphens flags (o.add (.single '-')) fuel (skipSpace flags rest)
    | _ => (o, cs)

/-- Reads the start of a class after its bracket, as an `OpenClass`: a hat negates, and a closing bracket
that comes first stands for itself, as `leadingHyphens` do. -/
def openClass (flags : Flags) (cs : List Char) : Except PatternFault (OpenClass × List Char) :=
  let cs := skipSpace flags cs
  let (negated, cs) := match cs with
    | '^' :: rest => (true, skipSpace flags rest)
    | _ => (false, cs)
  let count := (cs.takeWhile (· = '-')).length
  let (o, cs) := leadingHyphens flags { negated } cs.length cs
  match cs with
  | [] => .error .unclosedClass
  | ']' :: rest =>
    if count = 0 then
      let rest := skipSpace flags rest
      if rest.isEmpty then .error .unclosedClass else .ok (o.add (.single ']'), rest)
    else .ok (o, cs)
  | _ => .ok (o, cs)

/-- Reads one item of a class. -/
def readClassItem : List Char → Except PatternFault (Item × List Char)
  | [] => .error .unclosedClass
  | '\\' :: cs => readEscape cs
  | c :: cs => .ok (.literal c, cs)

/-- The class that an `Item` stands for; a condition stands for none. -/
def classOfItem : Item → Except PatternFault CharClass
  | .literal c => .ok (.single c)
  | .class c => .ok c
  | .look _ => .error .invalidClassItem

/-- Whether a hyphen starts the second part of a range. -/
def startsRange (flags : Flags) : List Char → Bool
  | '-' :: rest =>
    match skipSpace flags rest with
    | ']' :: _ => false
    | '-' :: _ => false
    | _ => true
  | _ => false

/-- Reads an item of a class by `readClassItem`, or a range of characters if one `startsRange`. -/
def readClassRange (flags : Flags) (cs : List Char) :
    Except PatternFault (CharClass × List Char) := do
  let (first, rest) ← readClassItem cs
  let rest := skipSpace flags rest
  if rest.isEmpty then .error .unclosedClass
  else if !startsRange flags rest then return (← classOfItem first, rest)
  else
    let rest := skipSpace flags (rest.drop 1)
    let (last, rest) ← readClassItem rest
    match first, last with
    | .literal a, .literal b =>
      if a.toNat ≤ b.toNat then .ok (.range a.toNat b.toNat, rest) else .error .invalidRange
    | _, _ => .error .invalidRange

/-- How deep groups and classes may be nested. -/
def nestLimit : Nat := 250

/-- Reads a class after its opening; the classes around it, `outer`, are kept as they have been read so
far. -/
def readClassBody (flags : Flags) (outer : List OpenClass) (o : OpenClass) :
    Nat → List Char → Except PatternFault (CharClass × List Char)
  | 0, _ => .error .unclosedClass
  | fuel + 1, cs =>
    match skipSpace flags cs with
    | [] => .error .unclosedClass
    | '[' :: rest =>
      match readNamedClass flags ('[' :: rest) with
      | some (c, rest) => readClassBody flags outer (o.add c) fuel rest
      | none =>
        if nestLimit < outer.length then .error .tooDeep
        else do
          let (inner, rest) ← openClass flags rest
          readClassBody flags (o :: outer) inner fuel rest
    | ']' :: rest =>
      let c := o.close flags
      match outer with
      | [] => .ok (c, rest)
      | next :: outer => readClassBody flags outer (next.add c) fuel rest
    | cs =>
      match readClassOp cs with
      | some (op, rest) =>
        let left := completeOp flags o.left o.items
        readClassBody flags outer { o with left := some (op, left), items := .none } fuel rest
      | none => do
        let (c, rest) ← readClassRange flags cs
        readClassBody flags outer (o.add c) fuel rest

/-- Reads a class after its first bracket, by `openClass` and `readClassBody`. -/
def readClass (flags : Flags) (cs : List Char) : Except PatternFault (CharClass × List Char) := do
  let (o, rest) ← openClass flags cs
  readClassBody flags [] o (2 * rest.length + 2) rest

/-! ### Flags and groups -/

/-- Sets a flag. -/
def Flags.set? (flags : Flags) (value : Bool) : Char → Option Flags
  | 'i' => some { flags with caseless := value }
  | 'm' => some { flags with multiLine := value }
  | 's' => some { flags with dotAll := value }
  | 'x' => some { flags with spaced := value }
  | 'R' => some { flags with wideLines := value }
  | 'U' => some flags
  | 'u' => some flags
  | _ => none

/-- Reads flags up to a colon or a closing bracket, each at most once, by `Flags.set?`. A hyphen, at most
one and not the last, switches those after it off. -/
def readFlags (flags : Flags) (seen : List Char) (value : Bool) :
    List Char → Except PatternFault (Flags × List Char)
  | [] => .error .unclosedGroup
  | c :: cs =>
    if c = ':' || c = ')' then
      if seen.head? = some '-' then .error .invalidFlags else .ok (flags, c :: cs)
    else if c = '-' then
      if value then readFlags flags ('-' :: seen) false cs else .error .invalidFlags
    else if seen.contains c then .error .invalidFlags
    else match flags.set? value c with
      | some flags => readFlags flags (c :: seen) value cs
      | none => .error .invalidFlags

/-- Whether a character may stand in the name of a group. -/
def isNameChar (first : Bool) (c : Char) : Bool :=
  c = '_' || c.isAlpha || (128 ≤ c.toNat && Text.inRanges Text.wordRanges c) ||
    (!first && (c.isDigit || c = '.' || c = '[' || c = ']'))

/-- Reads the name of a group up to its closing angle bracket; it must not be among `names`. -/
def readName (names : List String) (cs : List Char) : Except PatternFault (String × List Char) :=
  let name := cs.takeWhile (· ≠ '>')
  let valid := match name with
    | [] => false
    | c :: rest => isNameChar true c && rest.all (isNameChar false)
  let s := String.ofList name
  match cs.drop name.length with
  | _ :: rest => if valid && !names.contains s then .ok (s, rest) else .error .invalidName
  | [] => .error .invalidName

/-- The start of a group. -/
inductive GroupStart where
  /-- Flags that hold from here on. -/
  | flags (flags : Flags)
  /-- A group with flags of its own. -/
  | group (flags : Flags) (name : Option String)

/-- Reads the start of a group after its bracket: a `GroupStart`. -/
def readGroupStart (flags : Flags) (names : List String) (cs : List Char) :
    Except PatternFault (GroupStart × List Char) :=
  match cs with
  | '?' :: '=' :: _ => .error .lookAround
  | '?' :: '!' :: _ => .error .lookAround
  | '?' :: '<' :: '=' :: _ => .error .lookAround
  | '?' :: '<' :: '!' :: _ => .error .lookAround
  | '?' :: 'P' :: '<' :: cs =>
    (readName names cs).map fun (name, rest) => (.group flags (some name), rest)
  | '?' :: '<' :: cs =>
    (readName names cs).map fun (name, rest) => (.group flags (some name), rest)
  | '?' :: ')' :: _ => .error .missingOperand
  | '?' :: cs =>
    match readFlags flags [] true cs with
    | .error e => .error e
    | .ok (inner, ':' :: rest) => .ok (.group inner none, rest)
    | .ok (inner, _ :: rest) => .ok (.flags inner, rest)
    | .ok (_, []) => .error .unclosedGroup
  | _ => .ok (.group flags none, cs)

/-! ### Repetitions -/

/-- Leaves out the mark of a repetition that prefers few. -/
def skipLazy (flags : Flags) (cs : List Char) : List Char :=
  match skipSpace flags cs with
  | '?' :: rest => rest
  | rest => rest

/-- Reads the counts of a repetition after its opening brace. -/
def readCounts (flags : Flags) (cs : List Char) :
    Except PatternFault ((Nat × Option Nat) × List Char) := do
  let cs := skipSpace flags cs
  if cs.isEmpty then .error .unclosedCount
  else
    let (min, rest) ← readCount cs
    match rest with
    | '\x7d' :: rest => .ok ((min, some min), rest)
    | ',' :: rest =>
      match skipSpace flags rest with
      | [] => .error .unclosedCount
      | '\x7d' :: rest => .ok ((min, none), rest)
      | rest =>
        let (max, rest) ← readCount rest
        match rest with
        | '\x7d' :: rest => if min ≤ max then .ok ((min, some max), rest) else .error .invalidCount
        | _ => .error .unclosedCount
    | _ => .error .unclosedCount

/-! ### Whole patterns -/

/-- A part that can be repeated, or the absence of one. -/
abbrev Last := Option TextPattern

/-- A group that is open: the alternatives before the one being read, the parts of that one and the
flags to go back to when the group is closed. -/
structure OpenGroup where
  alternatives : Option TextPattern := none
  parts : TextPattern := .empty
  last : Last := none
  flags : Flags

/-- What has been read of the current alternative: the parts and the `last` one. -/
def OpenGroup.current (g : OpenGroup) : TextPattern :=
  match g.last with
  | some p => .seq g.parts p
  | none => g.parts

/-- Adds the part `p` to the current alternative. -/
def OpenGroup.push (g : OpenGroup) (p : TextPattern) : OpenGroup :=
  { g with parts := g.current, last := some p }

/-- Adds something that cannot be repeated and matches nothing. -/
def OpenGroup.seal (g : OpenGroup) : OpenGroup :=
  { g with parts := g.current, last := none }

/-- All alternatives read so far, the `current` one among them. -/
def OpenGroup.whole (g : OpenGroup) : TextPattern :=
  match g.alternatives with
  | some p => .alt p g.current
  | none => g.current

/-- Starts the next alternative; the `whole` so far is kept. -/
def OpenGroup.next (g : OpenGroup) : OpenGroup :=
  { g with alternatives := some g.whole, parts := .empty, last := none }

/-- Repeats the last part from `min` to `max` times. -/
def OpenGroup.repeatLast (g : OpenGroup) (min : Nat) (max : Option Nat) :
    Except PatternFault OpenGroup :=
  match g.last with
  | some p => .ok { g with last := some (.times p min max) }
  | none => .error .missingOperand

/-- The condition that a hat or a dollar sign stands for, by the `flags`. -/
def lineAssertion (flags : Flags) (start : Bool) : Assertion :=
  match flags.multiLine, flags.wideLines, start with
  | false, _, true => .textStart
  | false, _, false => .textEnd
  | true, false, true => .lineStart
  | true, false, false => .lineEnd
  | true, true, true => .wideLineStart
  | true, true, false => .wideLineEnd

/-- The class that a point stands for, by the `flags`. -/
def dotClass (flags : Flags) : CharClass :=
  if flags.dotAll then .any
  else if flags.wideLines then .complement (.union (.single '\n') (.single '\r'))
  else .complement (.single '\n')

/-- The pattern that an `Item` stands for. -/
def ofItem (flags : Flags) : Item → TextPattern
  | .literal c => .char (fold flags (.single c))
  | .class c => .char c
  | .look a => .look a

/-- Reads a pattern; `g` is the innermost open group, `outer` are those around it, and `names` are
the names of groups in use. -/
def readFrom (outer : List OpenGroup) (g : OpenGroup) (flags : Flags) (names : List String) :
    Nat → List Char → Except PatternFault TextPattern
  | 0, _ => .error .tooDeep
  | fuel + 1, cs =>
    match skipSpace flags cs with
    | [] => if outer.isEmpty then .ok g.whole else .error .unclosedGroup
    | '(' :: rest => do
      let (start, rest) ← readGroupStart flags names rest
      match start with
      | .flags inner => readFrom outer g.seal inner names fuel rest
      | .group inner name =>
        if nestLimit < outer.length + 1 then .error .tooDeep
        else readFrom (g :: outer) { flags } inner (name.toList ++ names) fuel rest
    | ')' :: rest =>
      match outer with
      | [] => .error .unopenedGroup
      | next :: outer => readFrom outer (next.push g.whole) g.flags names fuel rest
    | '|' :: rest => readFrom outer g.next flags names fuel rest
    | '*' :: rest => do readFrom outer (← g.repeatLast 0 none) flags names fuel (skipLazy flags rest)
    | '+' :: rest => do readFrom outer (← g.repeatLast 1 none) flags names fuel (skipLazy flags rest)
    | '?' :: rest => do
      readFrom outer (← g.repeatLast 0 (some 1)) flags names fuel (skipLazy flags rest)
    | '\x7b' :: rest => do
      let _ ← g.repeatLast 0 none
      let ((min, max), rest) ← readCounts flags rest
      readFrom outer (← g.repeatLast min max) flags names fuel (skipLazy flags rest)
    | '[' :: rest => do
      let (c, rest) ← readClass flags rest
      readFrom outer (g.push (.char c)) flags names fuel rest
    | '.' :: rest => readFrom outer (g.push (.char (dotClass flags))) flags names fuel rest
    | '^' :: rest => readFrom outer (g.push (.look (lineAssertion flags true))) flags names fuel rest
    | '$' :: rest =>
      readFrom outer (g.push (.look (lineAssertion flags false))) flags names fuel rest
    | '\\' :: rest => do
      let (item, rest) ← readEscape rest
      readFrom outer (g.push (ofItem flags item)) flags names fuel rest
    | c :: rest =>
      readFrom outer (g.push (.char (fold flags (.single c)))) flags names fuel rest

/-- Reads a pattern from its written form: `readFrom` reads all of it. -/
def parse (s : String) : Except PatternFault TextPattern :=
  readFrom [] { flags := {} } {} [] (2 * s.length + 2) s.toList

end Pattern

end MailFilter
