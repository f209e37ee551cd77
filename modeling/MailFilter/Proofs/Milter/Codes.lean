/-
The codes of status lines.

A text that starts with an enhanced code has it put into the status line in place of the usual one,
whatever kind of answer it is for.

* `read?_eq_some_iff`: what is read as a code is what can be written as one;
* `splitEnhanced_eq_some_iff`, `splitEnhanced_eq_none_iff`: the code that a text starts with is taken off,
  and nothing else is;
* `codes_of_reply`: which codes and which text a reply is told with, and when the two codes are of a kind;
* `foreign_codes`: replies for which they are not.
-/
import MailFilter.Checker.Registry
import MailFilter.Checker.Scripted
import MailFilter.Milter.StatusLine
import MailFilter.Proofs.Text.Ends

namespace MailFilter.Milter

/-! ### Writing and reading codes -/

namespace EnhancedCode

/-- A code of a known kind whose two details are numbers. -/
structure WellFormed (c : EnhancedCode) : Prop where
  kind : c.kind ∈ kinds
  subject : isNumber c.subject = true
  detail : isNumber c.detail = true

variable {c : EnhancedCode}

theorem notMem_of_digits {cs : List Char} (h : cs.all Char.isDigit = true) {x : Char}
    (hx : x.isDigit = false) : x ∉ cs := by
  intro hmem
  rw [List.all_eq_true.1 h x hmem] at hx
  cases hx

theorem all_of_isNumber {cs : List Char} (h : isNumber cs = true) : cs.all Char.isDigit = true := by
  rw [isNumber, Bool.and_eq_true] at h
  exact h.2

theorem WellFormed.digits (h : c.WellFormed) :
    ∀ part ∈ [[c.kind], c.subject, c.detail], part.all Char.isDigit = true := by
  have hkinds : ∀ kind ∈ kinds, [kind].all Char.isDigit = true := by simp [kinds]
  intro part hpart
  simp only [List.mem_cons, List.not_mem_nil, or_false] at hpart
  rcases hpart with rfl | rfl | rfl
  · exact hkinds c.kind h.kind
  · exact all_of_isNumber h.subject
  · exact all_of_isNumber h.detail

theorem written_eq (c : EnhancedCode) :
    c.written = ['.'].intercalate [[c.kind], c.subject, c.detail] := by
  simp [written, List.intercalate]

theorem ofParts?_eq_some_iff {parts : List (List Char)} :
    ofParts? parts = some c ↔ c.WellFormed ∧ parts = [[c.kind], c.subject, c.detail] := by
  constructor
  · intro h
    rw [ofParts?.eq_def] at h
    split at h
    · next kind subject detail =>
        rw [Option.ite_none_right_eq_some, Option.some.injEq] at h
        obtain ⟨hparts, rfl⟩ := h
        simp only [Bool.and_eq_true, List.contains_iff_mem] at hparts
        exact ⟨⟨hparts.1.1, hparts.1.2, hparts.2⟩, rfl⟩
    · cases h
  · rintro ⟨hc, rfl⟩
    rw [ofParts?, if_pos]
    simp [hc.kind, hc.subject, hc.detail]

/-- What `read?` takes for a code is what can be `written` as one. -/
theorem read?_eq_some_iff {cs : List Char} : read? cs = some c ↔ c.WellFormed ∧ cs = c.written := by
  have hsplit : cs.splitOnP (· = '.') = cs.splitOn '.' := by
    rw [List.splitOn]
    congr 1
  rw [read?, hsplit, ofParts?_eq_some_iff, written_eq]
  refine and_congr_right fun hc => ⟨fun h => ?_, fun h => ?_⟩
  · rw [← h, List.intercalate_splitOn]
  · rw [h, List.splitOn_intercalate]
    · exact fun part hpart => notMem_of_digits (hc.digits part hpart) rfl
    · simp

theorem WellFormed.notMem_written (h : c.WellFormed) : ' ' ∉ c.written := by
  have hparts : ∀ part ∈ [[c.kind], c.subject, c.detail], ' ' ∉ part :=
    fun part hpart => notMem_of_digits (h.digits part hpart) rfl
  simp only [List.forall_mem_cons, List.mem_singleton] at hparts
  simp [written, hparts]

/-! ### The code that a text starts with -/

/-- The characters `cs` start with the code `c`: a space follows it, perhaps more blanks,
and the `rest`. -/
structure Leads (c : EnhancedCode) (cs rest : List Char) : Prop where
  wellFormed : c.WellFormed
  spelled : ∃ blanks, (∀ b ∈ blanks, Text.isBlank b = true) ∧ cs = c.written ++ ' ' :: blanks ++ rest
  rest_ne_nil : rest ≠ []
  starts : ∀ b, rest.head? = some b → Text.isBlank b = false

end EnhancedCode

open EnhancedCode

variable {c : EnhancedCode} {cs rest : List Char}

theorem dropWhile_ne_space (h : ' ' ∉ cs) (tail : List Char) :
    ((cs ++ ' ' :: tail).dropWhile (· ≠ ' ')).dropWhile Text.isBlank
      = tail.dropWhile Text.isBlank := by
  rw [Text.dropWhile_ne_append h, List.dropWhile_cons_of_pos (by decide)]

/-- The code that `splitEnhanced` splits off is the one that `Leads`. -/
theorem splitEnhanced_eq_some_iff : splitEnhanced cs = (some c, rest) ↔ c.Leads cs rest := by
  constructor
  · intro h
    rw [splitEnhanced] at h
    split at h
    · next code b r hread htext =>
        obtain ⟨hcode, rfl⟩ := Prod.mk.inj h
        obtain rfl := Option.some.inj hcode
        by_cases hspace : ' ' ∈ cs
        · obtain ⟨first, tail, rfl, hfirst⟩ := List.eq_append_cons_of_mem hspace
          rw [Text.takeWhile_ne_append hfirst] at hread
          rw [dropWhile_ne_space hfirst] at htext
          obtain ⟨hc, rfl⟩ := read?_eq_some_iff.1 hread
          refine ⟨hc, ⟨tail.takeWhile Text.isBlank, List.all_eq_true.1 List.all_takeWhile, ?_⟩,
            List.cons_ne_nil _ _, fun b' hb' => Text.not_of_head?_dropWhile (htext ▸ hb')⟩
          rw [← htext, List.append_assoc, List.cons_append, List.takeWhile_append_dropWhile]
        · -- without a space nothing follows the first word
          rw [List.dropWhile_eq_nil_iff.2 (Text.ne_of_notMem hspace)] at htext
          cases htext
    · cases (Prod.mk.inj h).1
  · rintro ⟨hc, ⟨blanks, hblanks, rfl⟩, hrest, hstarts⟩
    rw [List.append_assoc, List.cons_append, splitEnhanced, Text.takeWhile_ne_append hc.notMem_written,
      dropWhile_ne_space hc.notMem_written, read?_eq_some_iff.2 ⟨hc, rfl⟩,
      List.dropWhile_append_of_pos hblanks, Text.dropWhile_eq_self hstarts]
    cases rest with
    | nil => exact absurd rfl hrest
    | cons b r => rfl

/-- A text that starts with no code is left whole by `splitEnhanced`. -/
theorem splitEnhanced_eq_none_iff :
    splitEnhanced cs = (none, cs) ↔ ∀ (c : EnhancedCode) rest, ¬ c.Leads cs rest := by
  constructor
  · intro h c rest hleads
    rw [splitEnhanced_eq_some_iff.2 hleads] at h
    cases (Prod.mk.inj h).1
  · intro h
    rcases hsplit : splitEnhanced cs with ⟨code | code, text⟩
    · rw [splitEnhanced] at hsplit
      split at hsplit
      · cases (Prod.mk.inj hsplit).1
      · rw [← (Prod.mk.inj hsplit).2]
    · exact absurd (splitEnhanced_eq_some_iff.1 hsplit) (h code text)

/-! ### Status lines -/

namespace StatusLine

/-- The enhanced code is of the kind that the `code` tells of. -/
def Agrees (l : StatusLine) : Prop :=
  l.code.toList.head? = some l.enhanced.kind

instance (l : StatusLine) : Decidable l.Agrees :=
  inferInstanceAs (Decidable (_ = _))

/-- A status line tells the text `s`: with the code that `Leads` and what follows it, or with the `usual`
code and the whole text. -/
structure Tells (l : StatusLine) (code : String) (usual : EnhancedCode) (s : String) : Prop where
  code_eq : l.code = code
  split : l.enhanced.Leads s.toList l.text ∨
    (∀ (c : EnhancedCode) rest, ¬ c.Leads s.toList rest) ∧ l.enhanced = usual ∧ l.text = s.toList
  agrees_iff : l.Agrees ↔ ∀ (c : EnhancedCode) rest, c.Leads s.toList rest → c.kind = usual.kind

theorem tells_ofText {code : String} {usual : EnhancedCode} (h : code.toList.head? = some usual.kind)
    (s : String) : (ofText code usual s).Tells code usual s := by
  by_cases hleads : ∃ (c : EnhancedCode) (rest : List Char), c.Leads s.toList rest
  · obtain ⟨c, rest, hc⟩ := hleads
    have hsplit := splitEnhanced_eq_some_iff.2 hc
    have hline : ofText code usual s = ⟨code, c, rest⟩ := by
      rw [ofText, hsplit]
      rfl
    rw [hline]
    refine ⟨rfl, .inl hc, ?_⟩
    rw [Agrees, h, Option.some.injEq, eq_comm]
    refine ⟨fun hkind c' rest' hc' => ?_, fun hkind => hkind c rest hc⟩
    -- a text starts with one code only
    have hsame := (splitEnhanced_eq_some_iff.2 hc').symm.trans hsplit
    rw [Option.some.inj (Prod.mk.inj hsame).1]
    exact hkind
  · have hnone : ∀ (c : EnhancedCode) rest, ¬ c.Leads s.toList rest :=
      fun c rest hc => hleads ⟨c, rest, hc⟩
    have hline : ofText code usual s = ⟨code, usual, s.toList⟩ := by
      rw [ofText, splitEnhanced_eq_none_iff.2 hnone]
      rfl
    rw [hline]
    exact ⟨rfl, .inr ⟨hnone, rfl, rfl⟩, fun _ c rest hc => absurd hc (hnone c rest), fun _ => h⟩

/-- What `ofReply?` tells of a reply. -/
inductive Told : Reply → Option StatusLine → Prop where
  | proceed : Told .proceed none
  | tempfail {s : String} {l : StatusLine} (h : l.Tells "451" .usualTempfail s) :
      Told (.tempfail s) (some l)
  | reject {s : String} {l : StatusLine} (h : l.Tells "550" .usualReject s) :
      Told (.reject s) (some l)

/-- The replies whose texts are the filter's own. -/
inductive Own : Reply → Prop where
  | failure (listed : Bool) (e : Failure) : Own (.ofFailure listed e)
  | badRecipient : Own (.reject Reply.badRecipientText)

theorem agrees_of_own {reply : Reply} (h : Own reply) {l : StatusLine} (hl : ofReply? reply = some l) :
    l.Agrees := by
  cases h with
  | failure listed e =>
    unfold Reply.ofFailure at hl
    split at hl
    · cases hl
    · split at hl
      · obtain rfl := Option.some.inj hl
        decide +kernel
      · obtain rfl := Option.some.inj hl
        decide +kernel
  | badRecipient =>
    obtain rfl := Option.some.inj hl
    decide +kernel

/-- **The codes of replies**: a reply is `Told` with its code and with the enhanced code that its text
starts with, else with the usual one; the two codes are of a kind unless the text starts with a foreign
code. The texts of the filter's `Own` do not. -/
theorem codes_of_reply (reply : Reply) :
    Told reply (ofReply? reply) ∧ (Own reply → ∀ l, ofReply? reply = some l → l.Agrees) := by
  refine ⟨?_, fun hown l hl => agrees_of_own hown hl⟩
  cases reply with
  | proceed => exact .proceed
  | tempfail s => exact .tempfail (tells_ofText rfl s)
  | reject s => exact .reject (tells_ofText rfl s)

/-- A checker that cannot answer for now, and says so with a code that is for good. -/
def directory : Registry Journal :=
  let answer : GateScript := { outcome := .verdict ⟨.error, "5.1.1 User unknown"⟩ }
  ⟨[Script.checker { name := "directory", gate := some answer }]⟩

/-- The refusal of the `directory` for now is told with that code, and a refusal for good with a code
that is for now. -/
theorem foreign_codes :
    (∃ v l, (directory.recipientCheck {} .null {}).1 = .ok v ∧
      ofReply? (.ofRecipient false v.action v.message) = some l ∧
      l = ⟨"451", ⟨'5', ['1'], ['1']⟩, "User unknown".toList⟩ ∧ ¬ l.Agrees) ∧
    ∃ l, ofReply? (.reject "4.2.2 Mailbox busy") = some l ∧
      l = ⟨"550", ⟨'4', ['2'], ['2']⟩, "Mailbox busy".toList⟩ ∧ ¬ l.Agrees := by
  refine ⟨⟨.tempfail "5.1.1 User unknown", _, rfl, rfl, ?_, ?_⟩, _, rfl, ?_, ?_⟩
  · decide +kernel
  · decide +kernel
  · decide +kernel
  · decide +kernel

end StatusLine

end MailFilter.Milter
