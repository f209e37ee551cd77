/-
Replacing every occurrence of a text in another one.
-/
namespace MailFilter.Text

/-- Replaces the occurrences of `pattern` from left to right, after leaving out `skip` characters
that belong to an occurrence already replaced. -/
def substituteFrom (pattern value : List Char) : Nat → List Char → List Char
  | _, [] => []
  | skip + 1, _ :: cs => substituteFrom pattern value skip cs
  | 0, c :: cs =>
    if pattern.isPrefixOf (c :: cs) then
      value ++ substituteFrom pattern value (pattern.length - 1) cs
    else c :: substituteFrom pattern value 0 cs

/-- Replaces every occurrence of a non-empty text, from left to right and without overlaps. -/
def substitute (pattern value s : String) : String :=
  String.ofList (substituteFrom pattern.toList value.toList 0 s.toList)

/-- Whether a text occurs in another one. -/
def occursIn (pattern : List Char) : List Char → Bool
  | [] => pattern.isEmpty
  | c :: cs => pattern.isPrefixOf (c :: cs) || occursIn pattern cs

end MailFilter.Text
