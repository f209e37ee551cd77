/-
Fields kept in the order of their keys, each key once.
-/
namespace MailFilter.Fields

variable {α : Type}

/-- The value of `key`: the first one, if there are several. -/
def find? (key : String) : List (String × α) → Option α
  | [] => none
  | (k, v) :: rest => if k = key then some v else find? key rest

/-- Sets the value of `key`, keeping the order of the keys. -/
def insert (key : String) (value : α) : List (String × α) → List (String × α)
  | [] => [(key, value)]
  | (k, v) :: rest =>
    if key = k then (key, value) :: rest
    else if key < k then (key, value) :: (k, v) :: rest
    else (k, v) :: insert key value rest

/-- Puts fields into the order of their keys, one by one with `insert`; of several with one key the last
one counts. -/
def ofList (fields : List (String × α)) : List (String × α) :=
  fields.foldl (fun acc field => insert field.1 field.2 acc) []

@[simp] theorem find?_nil (key : String) : find? key ([] : List (String × α)) = none := rfl

theorem find?_insert_self (key : String) (value : α) (fields : List (String × α)) :
    find? key (insert key value fields) = some value := by
  induction fields with
  | nil => simp [insert, find?]
  | cons field rest ih =>
    obtain ⟨k, v⟩ := field
    simp only [insert]
    split
    · simp [find?]
    · split
      · simp [find?]
      · rename_i hne _
        simp [find?, Ne.symm hne, ih]

theorem find?_insert_of_ne {key other : String} (h : other ≠ key) (value : α)
    (fields : List (String × α)) : find? other (insert key value fields) = find? other fields := by
  induction fields with
  | nil => simp [insert, find?, Ne.symm h]
  | cons field rest ih =>
    obtain ⟨k, v⟩ := field
    simp only [insert]
    split
    · rename_i heq
      subst heq
      simp [find?, Ne.symm h]
    · split
      · simp [find?, Ne.symm h]
      · simp only [find?]
        split
        · rfl
        · exact ih

theorem mem_of_find? {key : String} {value : α} {fields : List (String × α)}
    (h : find? key fields = some value) : (key, value) ∈ fields := by
  induction fields with
  | nil => cases h
  | cons field rest ih =>
    rw [find?] at h
    split at h
    · next hkey =>
      obtain rfl := Option.some.inj h
      exact hkey ▸ List.mem_cons_self ..
    · exact List.mem_cons_of_mem _ (ih h)

end MailFilter.Fields
