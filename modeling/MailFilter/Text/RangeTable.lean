/-
Membership in a sorted table of ranges, by bisection.
-/
namespace MailFilter.Text

/-- The number of the last row of a sorted table whose key is at most `n`, looked for among the
rows from `lo` up to but excluding `hi`; `lo` when there is none. -/
def lastRowAtMost (key : Nat → Nat) (n lo hi : Nat) : Nat :=
  if hi ≤ lo + 1 then lo
  else
    let mid := (lo + hi) / 2
    if key mid ≤ n then lastRowAtMost key n mid hi else lastRowAtMost key n lo mid
termination_by hi - lo

/-- The row of a sorted table that can hold `n`: the last one whose first component is at
most `n`. -/
def rowFor {α : Type} (rows : Array (Nat × α)) (n : Nat) : Option (Nat × α) :=
  let key := fun i => (rows[i]?.map (·.1)).getD 0
  match rows[lastRowAtMost key n 0 rows.size]? with
  | some row => if row.1 ≤ n then some row else none
  | none => none

/-- Whether a sorted table of ranges holds a character. -/
def inRanges (rows : Array (Nat × Nat)) (c : Char) : Bool :=
  match rowFor rows c.toNat with
  | some (_, last) => c.toNat ≤ last
  | none => false

end MailFilter.Text
