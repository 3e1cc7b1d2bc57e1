/-!
# The order of texts

Texts are sorted by the numbers of their characters, the first that differs deciding, and a text
comes before everything that continues it. That is the order of their octets in UTF-8 as well.
-/

namespace FlightScript.Text.Order

/-- Whether some characters come before others, or are the same. -/
def notAfterChars : List Char → List Char → Bool
  | [], _ => true
  | _ :: _, [] => false
  | a :: as, b :: bs => a.toNat < b.toNat || (a.toNat = b.toNat && notAfterChars as bs)

/-- Whether a text comes before another, or is the same. -/
def notAfter (a b : String) : Bool :=
  notAfterChars a.toList b.toList

theorem notAfterChars_total (a b : List Char) : notAfterChars a b || notAfterChars b a := by
  induction a generalizing b with
  | nil => rfl
  | cons x xs ih =>
    cases b with
    | nil => rfl
    | cons y ys =>
      have rest := ih ys
      simp only [notAfterChars, Bool.or_eq_true, Bool.and_eq_true, decide_eq_true_eq] at rest ⊢
      rcases Nat.lt_trichotomy x.toNat y.toNat with less | same | more
      · exact .inl (.inl less)
      · rcases rest with front | back
        · exact .inl (.inr ⟨same, front⟩)
        · exact .inr (.inr ⟨same.symm, back⟩)
      · exact .inr (.inl more)

theorem notAfterChars_trans (a b c : List Char) (ab : notAfterChars a b) (bc : notAfterChars b c) :
    notAfterChars a c := by
  induction a generalizing b c with
  | nil => rfl
  | cons x xs ih =>
    cases b with
    | nil => simp [notAfterChars] at ab
    | cons y ys =>
      cases c with
      | nil => simp [notAfterChars] at bc
      | cons z zs =>
        have rest := ih ys zs
        simp only [notAfterChars, Bool.or_eq_true, Bool.and_eq_true, decide_eq_true_eq] at ab bc rest ⊢
        rcases ab with less | ⟨same, front⟩
        · rcases bc with less' | ⟨same', _⟩
          · exact .inl (Nat.lt_trans less less')
          · exact .inl (same' ▸ less)
        · rcases bc with less' | ⟨same', back⟩
          · exact .inl (same.symm ▸ less')
          · exact .inr ⟨by omega, rest front back⟩

end FlightScript.Text.Order
