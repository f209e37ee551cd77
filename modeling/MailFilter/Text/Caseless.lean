/-
Names compared without regard to the case of ASCII letters.

Header names are the same when their small forms are equal; `sameName` is an equivalence.
-/
namespace MailFilter.Text

/-- A name with its ASCII capitals made small. -/
def smallName (s : String) : String :=
  String.ofList (s.toList.map Char.toLower)

/-- Whether two names differ at most in the case of ASCII letters. -/
def sameName (a b : String) : Bool :=
  smallName a == smallName b

theorem sameName_iff {a b : String} : sameName a b = true ↔ smallName a = smallName b :=
  beq_iff_eq

@[simp] theorem sameName_refl (a : String) : sameName a a = true :=
  sameName_iff.2 rfl

theorem sameName_comm (a b : String) : sameName a b = sameName b a := by
  rw [Bool.eq_iff_iff, sameName_iff, sameName_iff, eq_comm]

theorem sameName_trans {a b c : String} (hab : sameName a b = true) (hbc : sameName b c = true) :
    sameName a c = true :=
  sameName_iff.2 ((sameName_iff.1 hab).trans (sameName_iff.1 hbc))

/-- Names that are the same may stand for each other in a comparison. -/
theorem sameName_congr_left {a b : String} (h : sameName a b = true) (c : String) :
    sameName a c = sameName b c := by
  rw [Bool.eq_iff_iff, sameName_iff, sameName_iff, sameName_iff.1 h]

end MailFilter.Text
