/-
Patterns of text, and where they match.

A pattern leads from positions of a text to positions further on. `Pattern.reach` computes all
positions that can be reached from a set of positions, both as numbers whose bits are the positions;
a pattern occurs in a text when something can be reached from somewhere.
-/
import MailFilter.Pattern.Class

namespace MailFilter

/-- A pattern over single characters `κ` and conditions on positions `α`. -/
inductive Pattern (κ α : Type) where
  | empty
  | char (c : κ)
  | look (a : α)
  | seq (p q : Pattern κ α)
  | alt (p q : Pattern κ α)
  /-- At least `min` times, and at most `max` times if that is given. -/
  | times (p : Pattern κ α) (min : Nat) (max : Option Nat)
  deriving Repr

/-- A condition on a position of a text. -/
inductive Assertion where
  | textStart
  | textEnd
  | lineStart
  | lineEnd
  /-- Line ends may be two characters. -/
  | wideLineStart
  | wideLineEnd
  | wordEdge
  | noWordEdge
  | wordStart
  | wordEnd
  | halfWordStart
  | halfWordEnd
  deriving Repr, DecidableEq

namespace Assertion

/-- Whether a condition holds between the characters `before` and `after`. -/
def holds (a : Assertion) (before after : Option Nat) : Bool :=
  let isWord := fun (c : Option Nat) => c.any (CharClass.word.holds [])
  match a with
  | textStart => before.isNone
  | textEnd => after.isNone
  | lineStart => before.isNone || before == some 10
  | lineEnd => after.isNone || after == some 10
  | wideLineStart => before.isNone || before == some 10 || (before == some 13 && after != some 10)
  | wideLineEnd => after.isNone || after == some 13 || (after == some 10 && before != some 13)
  | wordEdge => isWord before != isWord after
  | noWordEdge => isWord before == isWord after
  | wordStart => !isWord before && isWord after
  | wordEnd => isWord before && !isWord after
  | halfWordStart => !isWord before
  | halfWordEnd => !isWord after

end Assertion

namespace Pattern

/-- Replaces characters by `f` and conditions by `g`. -/
def map {κ κ' α α' : Type} (f : κ → κ') (g : α → α') : Pattern κ α → Pattern κ' α'
  | empty => empty
  | char c => char (f c)
  | look a => look (g a)
  | seq p q => seq (p.map f g) (q.map f g)
  | alt p q => alt (p.map f g) (q.map f g)
  | times p min max => times (p.map f g) min max

/-- Applies `f` so many times. It stops where `f` changes nothing. -/
def iterate (f : Nat → Nat) : Nat → Nat → Nat
  | 0, s => s
  | n + 1, s => if f s = s then s else iterate f n (f s)

/-- All that can be reached from `frontier` by up to `n` applications of `f`, together with `seen`.
It stops when there is nothing new. -/
def closure (f : Nat → Nat) : Nat → Nat → Nat → Nat
  | 0, seen, _ => seen
  | n + 1, seen, frontier =>
    let next := f frontier
    let fresh := next ^^^ (next &&& seen)
    if fresh = 0 then seen else closure f n (seen ||| fresh) fresh

/-- The positions reached from a set of positions in a text of `size` characters, where each
character of the pattern stands for the set of positions that it matches at, and each condition for
the set of positions that it holds at. -/
def reach (size : Nat) : Pattern Nat Nat → Nat → Nat
  | empty, s => s
  | char mask, s => (s &&& mask) <<< 1
  | look mask, s => s &&& mask
  | seq p q, s => reach size q (reach size p s)
  | alt p q, s => reach size p s ||| reach size q s
  | times p min max, s =>
    let start := iterate (reach size p) min s
    match max with
    | none => closure (reach size p) (size + 1) start start
    | some max => closure (reach size p) (max - min) start start

/-! ### Texts -/

/-- The number whose bits are the given ones, the first one lowest. -/
def ofBits (bits : List Bool) : Nat :=
  -- blocks of bits are put together first, so that few large numbers are built
  let blocks := bits.foldl (fun (done, block, width) bit =>
    let block := if bit then block + 1 <<< width else block
    if width = 59 then (block :: done, 0, 0) else (done, block, width + 1))
    (([] : List Nat), 0, 0)
  let (done, block, _) := blocks
  done.foldl (fun n block => n <<< 60 ||| block) block

/-- The positions at which the class `c` `holds`; each character of the text is given with its other
cases. -/
def classMask (text : List (Nat × List Nat)) (c : CharClass) : Nat :=
  ofBits (text.map fun (n, family) => c.holds family n)

/-- The positions at which the condition `a` `holds`. -/
def lookMask (text : List Nat) (a : Assertion) : Nat :=
  let after := text.map some ++ [none]
  ofBits ((none :: text.map some).zipWith a.holds after)

/-- Whether the pattern occurs in a text: whether its masks, `classMask` and `lookMask`, let it `reach`
any position. -/
def occursIn (p : Pattern CharClass Assertion) (s : String) : Bool :=
  let text := s.toList.map Char.toNat
  let size := text.length
  let families := text.map fun n => (n, Text.family n)
  (p.map (classMask families) (lookMask text)).reach size (1 <<< (size + 1) - 1) != 0

end Pattern

end MailFilter
