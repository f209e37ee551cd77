/-
Header lines as a plain list of names and values.

This is how the mail server keeps the headers of a message: a line is added at the end, and a
deletion erases the occurrence of a name with a given number, if there is one.

* `values_erase_same`: erasing an occurrence takes its value out of those of its name;
* `values_erase_other`: the values of every other name stay;
* `values_applyAll`: changes to the headers act on the values of each name on their own.
-/
import MailFilter.Message.Compose

namespace MailFilter

open Text

/-- The header lines of a message, each with its name and its value. -/
abbrev Lines := List (String × String)

/-- The name of the headers that a change is about. -/
def HeaderMutation.key : HeaderMutation → String
  | add key _ | delete key _ => key

namespace Lines

/-! ### Operations -/

/-- The lines with the name `key`. -/
def named (key : String) (l : Lines) : Lines :=
  l.filter fun line => sameName line.1 key

/-- The values of the name `key`, in order. -/
def values (key : String) (l : Lines) : List String :=
  (l.named key).map Prod.snd

/-- Adds a line. -/
def add (key value : String) (l : Lines) : Lines :=
  l ++ [(key, value)]

/-- Erases the occurrence of the name `key` with a number, counted from one; nothing if
there is none. -/
def erase (key : String) : Nat → Lines → Lines
  | _, [] => []
  | 0, l => l
  | i + 1, line :: rest =>
    if sameName line.1 key then if i = 0 then rest else line :: erase key i rest
    else line :: erase key (i + 1) rest

/-- The lines as they are sent. -/
def raw (l : Lines) : List UInt8 :=
  l.flatMap fun line => utf8 (line.1 ++ ": " ++ line.2 ++ "\r\n")

/-- Makes one change to the headers, with `add` or `erase`. -/
def apply (l : Lines) : HeaderMutation → Lines
  | .add key value => l.add key value
  | .delete key index => l.erase key index

/-- Makes changes to the headers, in order, each with `apply`. -/
def applyAll (l : Lines) (mutations : List HeaderMutation) : Lines :=
  mutations.foldl apply l

/-! ### Erasing -/

@[simp] theorem erase_nil (key : String) (i : Nat) : erase key i [] = [] := by
  cases i <;> rfl

@[simp] theorem erase_zero (key : String) (l : Lines) : erase key 0 l = l := by
  cases l <;> rfl

theorem erase_succ_cons (key : String) (i : Nat) (line : String × String) (rest : Lines) :
    erase key (i + 1) (line :: rest)
      = if sameName line.1 key then if i = 0 then rest else line :: erase key i rest
        else line :: erase key (i + 1) rest := rfl

@[simp] theorem values_nil (key : String) : values key [] = [] := rfl

theorem values_cons (key : String) (line : String × String) (rest : Lines) :
    values key (line :: rest)
      = if sameName line.1 key then line.2 :: values key rest else values key rest := by
  by_cases h : sameName line.1 key <;> simp [values, named, h]

@[simp] theorem values_append (key : String) (l l' : Lines) :
    values key (l ++ l') = values key l ++ values key l' := by
  simp [values, named]

/-- Erasing the `i`-th occurrence of a name takes the `i`-th value out of those of the name. -/
theorem values_erase_same (key : String) (i : Nat) (l : Lines) :
    values key (l.erase key (i + 1)) = (values key l).eraseIdx i := by
  induction l generalizing i with
  | nil => simp
  | cons line rest ih =>
    rw [erase_succ_cons, values_cons]
    by_cases h : sameName line.1 key
    · rcases i with _ | i
      · simp [h]
      · simp [h, values_cons, ih]
    · simp [h, values_cons, ih]

/-- Where an occurrence is not there, `erase` changes nothing. -/
theorem erase_eq_self {key : String} {i : Nat} {l : Lines}
    (hi : i = 0 ∨ (values key l).length < i) : l.erase key i = l := by
  induction l generalizing i with
  | nil => simp
  | cons line rest ih =>
    rcases i with _ | i
    · simp
    · rw [values_cons] at hi
      rw [erase_succ_cons]
      by_cases h : sameName line.1 key
      · rw [if_pos h, List.length_cons] at hi
        rw [if_pos h, if_neg (by omega), ih (by omega)]
      · rw [if_neg h] at hi
        rw [if_neg h, ih (by omega)]

/-- With `erase` for one name the `values` of every other name are left alone. -/
theorem values_erase_other {key key' : String} (h : sameName key key' = false) (i : Nat)
    (l : Lines) : values key' (l.erase key i) = values key' l := by
  induction l generalizing i with
  | nil => simp
  | cons line rest ih =>
    rcases i with _ | i
    · simp
    · rw [erase_succ_cons]
      by_cases hk : sameName line.1 key
      · have hother : sameName line.1 key' = false := by
          rw [sameName_congr_left hk]
          exact h
        by_cases hi : i = 0 <;> simp [hk, hi, hother, values_cons, ih]
      · simp [hk, values_cons, ih]

/-! ### Changes by name -/

/-- Names that are the same, by `sameName`, have the same `values`. -/
theorem values_congr {key key' : String} (h : sameName key key' = true) (l : Lines) :
    values key l = values key' l := by
  have hname : ∀ a, sameName a key = sameName a key' := fun a => by
    rw [sameName_comm a, sameName_comm a, sameName_congr_left h]
  simp [values, named, hname]

/-- What a change to the headers does to the `values` of the name `key`. -/
def applyValue (key : String) (vs : List String) : HeaderMutation → List String
  | .add k v => if sameName k key then vs ++ [v] else vs
  | .delete k i => if sameName k key ∧ i ≠ 0 then vs.eraseIdx (i - 1) else vs

theorem values_apply (key : String) (l : Lines) (mutation : HeaderMutation) :
    values key (l.apply mutation) = applyValue key (values key l) mutation := by
  cases mutation with
  | add k v =>
    rw [apply, add, values_append, applyValue, values_cons]
    by_cases h : sameName k key <;> simp [h]
  | delete k i =>
    rw [apply, applyValue]
    by_cases h : sameName k key
    · rcases i with _ | i
      · simp
      · rw [← values_congr h, values_erase_same, values_congr h]
        simp [h]
    · rw [values_erase_other (by simpa using h)]
      simp [h]

/-- A change that is about another name does nothing to the values of a name under `applyValue`. -/
theorem applyValue_other {key : String} {mutation : HeaderMutation}
    (h : sameName mutation.key key = false) (vs : List String) :
    applyValue key vs mutation = vs := by
  cases mutation with
  | add k v | delete k i =>
    have hk : sameName k key = false := h
    simp [applyValue, hk]

theorem foldl_applyValue_other {key : String} {mutations : List HeaderMutation}
    (h : ∀ mutation ∈ mutations, sameName mutation.key key = false) (vs : List String) :
    mutations.foldl (applyValue key) vs = vs := by
  induction mutations with
  | nil => rfl
  | cons mutation rest ih =>
    rw [List.foldl_cons, applyValue_other (h mutation (List.mem_cons_self ..))]
    exact ih fun mutation hm => h mutation (List.mem_cons_of_mem _ hm)

/-- Changes to the headers act on the `values` of each name on their own. -/
theorem values_applyAll (key : String) (l : Lines) (mutations : List HeaderMutation) :
    values key (l.applyAll mutations) = mutations.foldl (applyValue key) (values key l) := by
  induction mutations generalizing l with
  | nil => rfl
  | cons mutation rest ih =>
    rw [applyAll, List.foldl_cons, List.foldl_cons, ← values_apply]
    exact ih _

end Lines

end MailFilter
