/-
Addresses in SMTP arguments.

An argument is stripped from the outside: of the blanks around it, of its angle brackets, and of the blanks
within these. That is done once, in this order, so a bracket that stands within brackets and blanks is left.

* `stripped_reverse`: stripping does the same at both ends;
* `head?_stripped_iff`: when a bracket is left at an end;
* `stripped_eq_self_iff`: what is left alone when it is stripped again;
* `text_ofArgument`: nothing is lost but what is stripped;
* `argument_bare_iff`: all of this, for the address in an argument.
-/
import MailFilter.Proofs.Address.RoundTrip

namespace MailFilter.Address

open Text

/-! ### Stripping -/

/-- The characters `cs` without the blanks around them, the brackets around the rest, and the blanks
around what is left then. -/
def stripped (opening closing : Char) (cs : List Char) : List Char :=
  trimChars (dropLastWhile (· = closing) ((trimChars cs).dropWhile (· = opening)))

variable {opening closing : Char}

theorem stripped_reverse (opening closing : Char) (cs : List Char) :
    stripped opening closing cs.reverse = (stripped closing opening cs).reverse := by
  have hopening : (trimChars cs).reverse.dropWhile (· = opening)
      = (dropLastWhile (· = opening) (trimChars cs)).reverse := by
    rw [dropLastWhile, List.reverse_reverse]
  rw [stripped, trimChars_reverse, hopening, dropLastWhile_reverse, trimChars_reverse,
    ← dropLastWhile_dropWhile_comm, stripped]

theorem head?_stripped {cs : List Char} {c : Char} (h : (stripped opening closing cs).head? = some c) :
    isBlank c = false :=
  head?_trimChars h

theorem getLast?_stripped {cs : List Char} {c : Char}
    (h : (stripped opening closing cs).getLast? = some c) : isBlank c = false :=
  getLast?_trimChars h

/-- From their start on the characters `cs` are blanks, some brackets, more blanks, and then a bracket
again. -/
def Reopens (bracket : Char) (cs : List Char) : Prop :=
  ∃ lead brackets gap rest, cs = lead ++ (brackets ++ (gap ++ bracket :: rest)) ∧
    (∀ c ∈ lead, isBlank c = true) ∧
    ((∀ c ∈ brackets, c = bracket) ∧ brackets ≠ []) ∧
    (∀ c ∈ gap, isBlank c = true) ∧ gap ≠ []

/-- A bracket that `stripped` leaves stands behind brackets and blanks. -/
theorem reopens_of_stripped {cs : List Char}
    (h : (stripped opening closing cs).head? = some opening) : Reopens opening cs := by
  obtain ⟨gap, rest, hrest, hgap⟩ := exists_of_head?_trimChars h
  obtain ⟨tail, htail, -⟩ :=
    exists_append_dropLastWhile (· = closing) ((trimChars cs).dropWhile (· = opening))
  obtain ⟨lead, trail, hcs, hlead, -⟩ := exists_append_trimChars cs
  have hinner : (trimChars cs).dropWhile (· = opening) = gap ++ opening :: (rest ++ tail) := by
    rw [htail, hrest, List.append_assoc, List.cons_append]
  have houter : trimChars cs
      = (trimChars cs).takeWhile (· = opening) ++ (gap ++ opening :: (rest ++ tail)) := by
    rw [← hinner, List.takeWhile_append_dropWhile]
  -- without blanks before it, the bracket would have been stripped
  have hgap_ne : gap ≠ [] := by
    rintro rfl
    have hnot := not_of_head?_dropWhile (congrArg List.head? hinner)
    simp at hnot
  refine ⟨lead, (trimChars cs).takeWhile (· = opening), gap, rest ++ tail ++ trail, ?_, hlead, ⟨?_, ?_⟩,
    hgap, hgap_ne⟩
  · calc cs = lead ++ (trimChars cs ++ trail) := hcs
      _ = lead ++ ((trimChars cs).takeWhile (· = opening) ++ (gap ++ opening :: (rest ++ tail)) ++ trail) := by
        rw [← houter]
      _ = _ := by simp
  · intro c hc
    simpa using List.mem_takeWhile_imp hc
  · -- without brackets before them, the blanks would have been
    intro hnone
    rw [hnone, List.nil_append] at houter
    obtain ⟨b, gap', rfl⟩ := List.exists_cons_of_ne_nil hgap_ne
    have hnot := head?_trimChars (congrArg List.head? houter)
    rw [hgap b (List.mem_cons_self ..)] at hnot
    cases hnot

/-- Where `cs` reopens with a bracket behind brackets and blanks, `stripped` leaves it. -/
theorem stripped_of_reopens (hopening : isBlank opening = false) (hne : opening ≠ closing)
    {cs : List Char} (h : Reopens opening cs) :
    (stripped opening closing cs).head? = some opening := by
  obtain ⟨lead, brackets, gap, rest, rfl, hlead, ⟨hbrackets, hbrackets_ne⟩, hgap, hgap_ne⟩ := h
  obtain ⟨b, brackets, rfl⟩ := List.exists_cons_of_ne_nil hbrackets_ne
  obtain rfl := hbrackets b (List.mem_cons_self ..)
  have houter : trimChars (lead ++ (b :: brackets ++ (gap ++ b :: rest)))
      = b :: brackets ++ (gap ++ b :: dropLastWhile isBlank rest) := by
    rw [List.cons_append, trimChars_append_cons hlead hopening, ← List.append_assoc,
      dropLastWhile_append_of_not hopening, List.append_assoc, List.cons_append]
  have hinner : (b :: brackets ++ (gap ++ b :: dropLastWhile isBlank rest)).dropWhile (· = b)
      = gap ++ b :: dropLastWhile isBlank rest := by
    rw [List.dropWhile_append_of_pos (by simpa using hbrackets), dropWhile_eq_self]
    intro c hc
    obtain ⟨g, gap, rfl⟩ := List.exists_cons_of_ne_nil hgap_ne
    obtain rfl := Option.some.inj hc
    rw [decide_eq_false_iff_not]
    rintro rfl
    rw [hgap g (List.mem_cons_self ..)] at hopening
    cases hopening
  rw [stripped, houter, hinner, dropLastWhile_append_of_not (by simpa using hne),
    trimChars_append_cons hgap hopening]
  rfl

theorem head?_stripped_iff (hopening : isBlank opening = false) (hne : opening ≠ closing)
    {cs : List Char} :
    (stripped opening closing cs).head? = some opening ↔ Reopens opening cs :=
  ⟨reopens_of_stripped, stripped_of_reopens hopening hne⟩

/-- At the end of a text it is the same as at its start, with the other bracket: it `Reopens` read
backwards. -/
theorem getLast?_stripped_iff (hclosing : isBlank closing = false) (hne : opening ≠ closing)
    {cs : List Char} :
    (stripped opening closing cs).getLast? = some closing ↔ Reopens closing cs.reverse := by
  rw [← head?_stripped_iff hclosing hne.symm, stripped_reverse, List.head?_reverse]

/-! ### Stripping again -/

/-- What `stripped` leaves alone does not begin with a bracket: that would have been taken off. -/
theorem head?_ne_of_stripped_eq {cs : List Char} (h : stripped opening closing cs = cs) :
    cs.head? ≠ some opening := by
  intro hhead
  obtain ⟨rest, rfl⟩ := List.head?_eq_some_iff.1 hhead
  have htrim : trimChars (opening :: rest) = opening :: rest :=
    trimChars_eq_self (fun c hc => head?_stripped (h ▸ hc)) (fun c hc => getLast?_stripped (h ▸ hc))
  have hlength : (stripped opening closing (opening :: rest)).length ≤ rest.length := by
    rw [stripped, htrim, List.dropWhile_cons_of_pos (by simp)]
    exact (length_trimChars_le ..).trans
      ((length_dropLastWhile_le ..).trans (List.length_dropWhile_le ..))
  rw [h, List.length_cons] at hlength
  omega

/-- A text is left alone by `stripped` just if neither a blank nor the bracket of that side stands at
either end. -/
theorem stripped_eq_self_iff {cs : List Char} : stripped opening closing cs = cs ↔
    ((∀ c, cs.head? = some c → isBlank c = false) ∧ ∀ c, cs.getLast? = some c → isBlank c = false) ∧
      cs.head? ≠ some opening ∧ cs.getLast? ≠ some closing := by
  constructor
  · intro h
    have hreverse : stripped closing opening cs.reverse = cs.reverse := by
      rw [stripped_reverse, h]
    refine ⟨⟨fun c hc => head?_stripped (h.symm ▸ hc), fun c hc => getLast?_stripped (h.symm ▸ hc)⟩,
      head?_ne_of_stripped_eq h, ?_⟩
    rw [← List.head?_reverse]
    exact head?_ne_of_stripped_eq hreverse
  · rintro ⟨⟨hfirst, hlast⟩, hopening, hclosing⟩
    have htrim : trimChars cs = cs := trimChars_eq_self hfirst hlast
    have hopened : cs.dropWhile (· = opening) = cs := by
      refine dropWhile_eq_self fun c hc => decide_eq_false ?_
      rintro rfl
      exact hopening hc
    have hclosed : dropLastWhile (· = closing) cs = cs := by
      refine dropLastWhile_eq_self fun c hc => decide_eq_false ?_
      rintro rfl
      exact hclosing hc
    rw [stripped, htrim, hopened, hclosed, htrim]

/-- What has been `stripped` is left alone from then on just if no bracket is left at its ends. -/
theorem stripped_stripped_iff {cs : List Char} :
    stripped opening closing (stripped opening closing cs) = stripped opening closing cs ↔
      (stripped opening closing cs).head? ≠ some opening ∧
        (stripped opening closing cs).getLast? ≠ some closing := by
  rw [stripped_eq_self_iff]
  exact and_iff_right ⟨fun _ => head?_stripped, fun _ => getLast?_stripped⟩

/-! ### Addresses -/

/-- The address in an argument is written as `stripArgument` leaves it. -/
theorem text_ofArgument (s : String) :
    (ofArgument s).text = String.ofList (stripArgument s.toList) := by
  rw [ofArgument]
  cases hread : parse? (String.ofList (stripArgument s.toList)) with
  | none => rfl
  | some a => exact text_of_parse? hread

/-- An address that is read with `ofArgument` from what it has been written as is the same just if
`stripArgument` would leave the text of the argument alone. -/
theorem ofArgument_text_iff (s : String) :
    ofArgument (ofArgument s).text = ofArgument s ↔
      stripArgument (stripArgument s.toList) = stripArgument s.toList := by
  constructor
  · intro h
    have htext := congrArg text h
    rw [text_ofArgument, text_ofArgument s] at htext
    simpa using congrArg String.toList htext
  · intro h
    rw [text_ofArgument, ofArgument, String.toList_ofList, h]
    rfl

/-- **The address in an argument** is written without a blank at either end. An opening bracket is left
at its start just if the argument `Reopens` there, with brackets, blanks and again a bracket, and so it
is with closing brackets at its end; if neither is left, and only then, reading what has been written
gives the address again. -/
theorem argument_bare_iff (s : String) :
    ((∀ c, (ofArgument s).text.toList.head? = some c → isBlank c = false) ∧
      ∀ c, (ofArgument s).text.toList.getLast? = some c → isBlank c = false) ∧
    ((ofArgument s).text.toList.head? = some '<' ↔ Reopens '<' s.toList) ∧
    ((ofArgument s).text.toList.getLast? = some '>' ↔ Reopens '>' s.toList.reverse) ∧
    (ofArgument (ofArgument s).text = ofArgument s ↔
      ¬ Reopens '<' s.toList ∧ ¬ Reopens '>' s.toList.reverse) := by
  have htext : (ofArgument s).text.toList = stripped '<' '>' s.toList := by
    rw [text_ofArgument, String.toList_ofList]
    rfl
  have hopening : (stripped '<' '>' s.toList).head? = some '<' ↔ Reopens '<' s.toList :=
    head?_stripped_iff (by decide) (by decide)
  have hclosing : (stripped '<' '>' s.toList).getLast? = some '>' ↔ Reopens '>' s.toList.reverse :=
    getLast?_stripped_iff (by decide) (by decide)
  rw [htext]
  refine ⟨⟨fun _ => head?_stripped, fun _ => getLast?_stripped⟩, hopening, hclosing, ?_⟩
  rw [ofArgument_text_iff, ← hopening, ← hclosing]
  exact stripped_stripped_iff

/-- A bracket within a bracket and a blank is left, and is stripped only if `ofArgument` reads the
address again. -/
theorem bracket_left :
    (ofArgument "< <a@b>").text = "<a@b" ∧
      ofArgument (ofArgument "< <a@b>").text ≠ ofArgument "< <a@b>" ∧
      (ofArgument "<a@b> >").text = "a@b>" := by
  decide +kernel

end MailFilter.Address
