/-
Blank characters and trimming.

A character is blank when it has the Unicode property White_Space. Trimming takes the blanks off
both ends of a text:

* `trimChars_eq_self_iff` : a text is its own trimming iff neither end is blank;
* `trimChars_trimChars` : trimming twice is trimming once.
-/
namespace MailFilter.Text

/-- Whether a character has the property White_Space. -/
def isBlank (c : Char) : Bool :=
  let n := c.toNat
  (9 ≤ n && n ≤ 13) || n == 0x20 || n == 0x85 || n == 0xA0 || n == 0x1680 ||
    (0x2000 ≤ n && n ≤ 0x200A) || n == 0x2028 || n == 0x2029 || n == 0x202F || n == 0x205F ||
    n == 0x3000

/-- Removes the longest run of characters satisfying `p` from the end. -/
def dropLastWhile (p : Char → Bool) (cs : List Char) : List Char :=
  (cs.reverse.dropWhile p).reverse

/-- Removes the blanks at both ends, characters with `isBlank`. -/
def trimChars (cs : List Char) : List Char :=
  dropLastWhile isBlank (cs.dropWhile isBlank)

/-- Removes the blanks at both ends of a text, by `trimChars`. -/
def trim (s : String) : String :=
  String.ofList (trimChars s.toList)

/-! ### Ends of a trimmed text -/

theorem not_of_head?_dropWhile {p : Char → Bool} {cs : List Char} {c : Char}
    (h : (cs.dropWhile p).head? = some c) : p c = false := by
  have := List.head?_dropWhile_not p cs
  simp [h] at this
  exact this

theorem dropWhile_eq_self {p : Char → Bool} {cs : List Char}
    (h : ∀ c, cs.head? = some c → p c = false) : cs.dropWhile p = cs := by
  cases cs with
  | nil => rfl
  | cons c r => simp [h c rfl]

theorem dropLastWhile_eq_self {p : Char → Bool} {cs : List Char}
    (h : ∀ c, cs.getLast? = some c → p c = false) : dropLastWhile p cs = cs := by
  rw [dropLastWhile, dropWhile_eq_self, List.reverse_reverse]
  intro c hc
  exact h c (by rwa [List.head?_reverse] at hc)

theorem getLast?_dropLastWhile {p : Char → Bool} {cs : List Char} {c : Char}
    (h : (dropLastWhile p cs).getLast? = some c) : p c = false := by
  rw [dropLastWhile, List.getLast?_reverse] at h
  exact not_of_head?_dropWhile h

/-- What `dropLastWhile` leaves is an initial part of the text. -/
theorem exists_append_dropLastWhile (p : Char → Bool) (cs : List Char) :
    ∃ dropped, cs = dropLastWhile p cs ++ dropped ∧ ∀ c ∈ dropped, p c = true := by
  refine ⟨(cs.reverse.takeWhile p).reverse, ?_, ?_⟩
  · rw [dropLastWhile, ← List.reverse_append, List.takeWhile_append_dropWhile, List.reverse_reverse]
  · intro c hc
    have := List.all_takeWhile (p := p) (l := cs.reverse)
    rw [List.all_eq_true] at this
    exact this c (by simpa using hc)

/-- Dropping at the end with `dropLastWhile` keeps the first character, unless nothing is left. -/
theorem head?_dropLastWhile {p : Char → Bool} {cs : List Char} {c : Char}
    (h : (dropLastWhile p cs).head? = some c) : cs.head? = some c := by
  obtain ⟨dropped, hd, -⟩ := exists_append_dropLastWhile p cs
  rw [hd, List.head?_append, h, Option.some_or]

theorem head?_trimChars {cs : List Char} {c : Char} (h : (trimChars cs).head? = some c) :
    isBlank c = false :=
  not_of_head?_dropWhile (head?_dropLastWhile h)

theorem getLast?_trimChars {cs : List Char} {c : Char} (h : (trimChars cs).getLast? = some c) :
    isBlank c = false :=
  getLast?_dropLastWhile h

theorem trimChars_eq_self {cs : List Char} (hs : ∀ c, cs.head? = some c → isBlank c = false)
    (he : ∀ c, cs.getLast? = some c → isBlank c = false) : trimChars cs = cs := by
  rw [trimChars, dropWhile_eq_self hs, dropLastWhile_eq_self he]

theorem trimChars_eq_self_iff {cs : List Char} :
    trimChars cs = cs ↔
      (∀ c, cs.head? = some c → isBlank c = false) ∧
        ∀ c, cs.getLast? = some c → isBlank c = false :=
  ⟨fun h => ⟨fun _ hc => head?_trimChars (h.symm ▸ hc), fun _ hc => getLast?_trimChars (h.symm ▸ hc)⟩,
    fun h => trimChars_eq_self h.1 h.2⟩

@[simp] theorem trimChars_trimChars (cs : List Char) : trimChars (trimChars cs) = trimChars cs :=
  trimChars_eq_self (fun _ => head?_trimChars) (fun _ => getLast?_trimChars)

end MailFilter.Text
