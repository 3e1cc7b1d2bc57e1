import FlightScript.Proofs.Script.Reading
import Mathlib.NumberTheory.Multiplicity
import Mathlib.Data.Int.ModEq
import Mathlib.Tactic.Ring
import Mathlib.Tactic.Linarith
/-!
# What the hash of a keyword notices

A keyword is recognised by its hash alone, and other words have that hash too.  What the hash does
notice is the damage that is likely: one octet that became another one, two octets that changed places,
and octets that were lost or added in a short word.

If nothing overflowed, the hash would be a number written in base 33, with the octets as its digits and
the start value in front of them (`unreduced`).  The hash is that number modulo `2 ^ 64`
(`hash_eq_iff`), so two words of one length have the same hash exactly if `2 ^ 64` divides the difference
of their digits' values.  Three facts about that difference decide everything:

* A changed octet makes it `(a - b) * 33 ^ k`, and `33 ^ k` is odd.
* Two octets that have changed places make it `(a - b) * (33 ^ m - 33 ^ n)`.  The power of two in
  `33 ^ d - 1` is the one in `32 * d`, so that the whole is divisible by `2 ^ 63` at most, as long as
  `d < 2 ^ 52`.
* The numbers of words of different lengths do not overlap, and up to ten octets nothing overflows.
-/

namespace FlightScript.Script

/-! ## The hash without the overflow -/

/-- The number whose digits in base 33 are the octets. -/
def weight : Bytes → ℕ
  | [] => 0
  | b :: word => b.toNat * 33 ^ word.length + weight word

/-- What the hash would be if nothing were lost. -/
def unreduced (word : Bytes) : ℕ :=
  5381 * 33 ^ word.length + weight word

lemma toNat_hashStep (value : UInt64) (b : UInt8) :
    (hashStep value b).toNat ≡ value.toNat * 33 + b.toNat [MOD 2 ^ 64] := by
  have hproduct : (value * 33).toNat ≡ value.toNat * 33 [MOD 2 ^ 64] := by
    rw [UInt64.toNat_mul]
    exact Nat.mod_modEq _ _
  rw [hashStep, UInt64.toNat_add, UInt8.toNat_toUInt64]
  exact (Nat.mod_modEq _ _).trans (hproduct.add_right _)

lemma toNat_foldl_hashStep (word : Bytes) (value : UInt64) :
    (word.foldl hashStep value).toNat ≡ value.toNat * 33 ^ word.length + weight word
      [MOD 2 ^ 64] := by
  induction word generalizing value with
  | nil => simp [weight, Nat.ModEq]
  | cons b word ih =>
    calc (word.foldl hashStep (hashStep value b)).toNat
        ≡ (hashStep value b).toNat * 33 ^ word.length + weight word [MOD 2 ^ 64] := ih _
      _ ≡ (value.toNat * 33 + b.toNat) * 33 ^ word.length + weight word [MOD 2 ^ 64] :=
        ((toNat_hashStep value b).mul_right _).add_right _
      _ = value.toNat * 33 ^ (b :: word).length + weight (b :: word) := by
        rw [weight, List.length_cons]
        ring

lemma toNat_hash (word : Bytes) : (hash word).toNat ≡ unreduced word [MOD 2 ^ 64] :=
  toNat_foldl_hashStep word 5381

lemma hash_eq_iff {word other : Bytes} :
    hash word = hash other ↔ unreduced word ≡ unreduced other [MOD 2 ^ 64] := by
  constructor
  · intro heq
    calc unreduced word
        ≡ (hash word).toNat [MOD 2 ^ 64] := (toNat_hash word).symm
      _ ≡ unreduced other [MOD 2 ^ 64] := heq ▸ toNat_hash other
  · intro hmod
    have hsame : (hash word).toNat ≡ (hash other).toNat [MOD 2 ^ 64] :=
      (toNat_hash word).trans (hmod.trans (toNat_hash other).symm)
    apply UInt64.toNat_inj.1
    exact hsame.eq_of_lt_of_lt (UInt64.toNat_lt _) (UInt64.toNat_lt _)

/-- Between words of one length the start value makes no difference. -/
lemma hash_eq_iff_of_length_eq {word other : Bytes} (hlength : word.length = other.length) :
    hash word = hash other ↔ (2 ^ 64 : ℤ) ∣ (weight word : ℤ) - weight other := by
  rw [hash_eq_iff, Nat.ModEq.comm, Nat.modEq_iff_dvd]
  have hdifference : (unreduced word : ℤ) - unreduced other = weight word - weight other := by
    simp [unreduced, hlength]
  rw [hdifference]
  norm_cast

/-- Another octet at one place counts by as much as the place does. -/
lemma weight_set (word : Bytes) {i : ℕ} (hi : i < word.length) (b : UInt8) :
    (weight (word.set i b) : ℤ) =
      weight word + ((b.toNat : ℤ) - word[i].toNat) * 33 ^ (word.length - 1 - i) := by
  induction word generalizing i with
  | nil => cases hi
  | cons a word ih =>
    cases i with
    | zero =>
      simp only [List.set_cons_zero, weight, List.getElem_cons_zero, List.length_cons]
      push_cast
      simp only [Nat.sub_zero]
      ring
    | succ i =>
      have hi' : i < word.length := by simpa using hi
      have hplace : (a :: word).length - 1 - (i + 1) = word.length - 1 - i := by
        simp only [List.length_cons]
        omega
      simp only [List.set_cons_succ, weight, List.length_set, List.getElem_cons_succ, hplace]
      push_cast
      rw [ih hi']
      ring

/-! ## Powers of two -/

lemma not_two_dvd_pow (k : ℕ) : ¬(2 : ℤ) ∣ 33 ^ k := by
  intro hdvd
  have hbase := Int.prime_two.dvd_of_dvd_pow hdvd
  omega

lemma emultiplicity_two_lt {x : ℤ} {k : ℕ} (hx : x ≠ 0) (hbound : |x| < 2 ^ k) :
    emultiplicity 2 x < k := by
  rw [emultiplicity_lt_iff_not_dvd]
  intro hdvd
  exact hx (Int.eq_zero_of_abs_lt_dvd hdvd hbound)

/-- The power of two in `33 ^ d - 1` is the one in `32 * d`. -/
lemma emultiplicity_two_pow_sub_one (d : ℕ) :
    emultiplicity 2 ((33 : ℤ) ^ d - 1) = 5 + emultiplicity (2 : ℤ) d := by
  have hfive : emultiplicity (2 : ℤ) (33 - 1) = 5 := by
    rw [show (33 - 1 : ℤ) = 2 ^ 5 by norm_num]
    exact emultiplicity_pow_self_of_prime Int.prime_two 5
  have hlift := Int.two_pow_sub_pow' (x := 33) (y := 1) d (by norm_num) (by norm_num)
  rwa [one_pow, hfive] at hlift

lemma not_dvd_mul_pow {x : ℤ} {k : ℕ} (hx : x ≠ 0) (hbound : |x| < 2 ^ 64) :
    ¬(2 ^ 64 : ℤ) ∣ x * 33 ^ k := by
  intro hdvd
  have hdvd' : (2 ^ 64 : ℤ) ∣ x :=
    Int.prime_two.pow_dvd_of_dvd_mul_right 64 (not_two_dvd_pow k) hdvd
  exact hx (Int.eq_zero_of_abs_lt_dvd hdvd' hbound)

lemma not_dvd_mul_pow_sub_pow {x : ℤ} {m n : ℕ} (hx : x ≠ 0) (hbound : |x| < 2 ^ 8) (hmn : m < n)
    (hn : n < 2 ^ 52) : ¬(2 ^ 64 : ℤ) ∣ x * (33 ^ n - 33 ^ m) := by
  have hfactor : x * (33 ^ n - 33 ^ m) = x * (33 ^ (n - m) - 1) * 33 ^ m := by
    obtain ⟨d, rfl⟩ := Nat.exists_eq_add_of_lt hmn
    rw [show m + d + 1 - m = d + 1 by omega]
    ring
  intro hdvd
  rw [hfactor] at hdvd
  have hdvd' := Int.prime_two.pow_dvd_of_dvd_mul_right 64 (not_two_dvd_pow m) hdvd
  have hgap : emultiplicity 2 x < (8 : ℕ) := emultiplicity_two_lt hx hbound
  have hdistance : emultiplicity (2 : ℤ) (n - m : ℕ) < (52 : ℕ) := by
    apply emultiplicity_two_lt
    · omega
    · rw [Nat.abs_cast]
      exact_mod_cast (Nat.sub_le n m).trans_lt hn
  rw [pow_dvd_iff_le_emultiplicity, emultiplicity_mul Int.prime_two,
    emultiplicity_two_pow_sub_one] at hdvd'
  -- At most 7 in the octets' difference, exactly 5 in 32 and at most 51 in the distance.
  obtain ⟨u, hu⟩ := ENat.ne_top_iff_exists.1 hgap.ne_top
  obtain ⟨v, hv⟩ := ENat.ne_top_iff_exists.1 hdistance.ne_top
  rw [← hu] at hgap hdvd'
  rw [← hv] at hdistance hdvd'
  norm_cast at hgap hdistance hdvd'
  omega

/-! ## Damaged words -/

lemma toNat_sub_ne_zero {a b : UInt8} (hne : a ≠ b) : (a.toNat : ℤ) - b.toNat ≠ 0 := by
  intro hzero
  apply hne
  apply UInt8.toNat_inj.1
  omega

lemma abs_toNat_sub_lt (a b : UInt8) : |(a.toNat : ℤ) - b.toNat| < 2 ^ 8 := by
  have ha := a.toNat_lt
  have hb := b.toNat_lt
  rw [abs_lt]
  omega

lemma hash_set_ne (word : Bytes) {i : ℕ} (hi : i < word.length) {b : UInt8} (hb : b ≠ word[i]) :
    hash (word.set i b) ≠ hash word := by
  rw [Ne, hash_eq_iff_of_length_eq (List.length_set ..), weight_set word hi, add_sub_cancel_left]
  apply not_dvd_mul_pow (toNat_sub_ne_zero hb)
  exact (abs_toNat_sub_lt _ _).trans (by norm_num)

/-- The octets at two places of a word have changed places. -/
def swapped (word : Bytes) (i j : Fin word.length) : Bytes :=
  (word.set i word[j]).set j word[i]

@[simp] lemma length_swapped (word : Bytes) (i j : Fin word.length) :
    (swapped word i j).length = word.length := by
  simp [swapped]

lemma swapped_comm (word : Bytes) {i j : Fin word.length} (hij : i ≠ j) :
    swapped word i j = swapped word j i :=
  List.set_comm _ _ (Fin.val_ne_of_ne hij)

lemma weight_swapped (word : Bytes) {i j : Fin word.length} (hij : i ≠ j) :
    (weight (swapped word i j) : ℤ) - weight word =
      ((word[j].toNat : ℤ) - word[i].toNat) *
        (33 ^ (word.length - 1 - i) - 33 ^ (word.length - 1 - j)) := by
  have hj : (j : ℕ) < (word.set i word[j]).length := by simp
  have hother : (word.set i word[j])[(j : ℕ)] = word[j] :=
    List.getElem_set_ne (Fin.val_ne_of_ne hij) _
  rw [swapped, weight_set _ hj, weight_set word i.isLt, hother, List.length_set]
  simp only [Fin.getElem_fin]
  ring

lemma hash_swapped_ne (word : Bytes) (hlength : word.length < 2 ^ 52) {i j : Fin word.length}
    (hne : word[i] ≠ word[j]) : hash (swapped word i j) ≠ hash word := by
  -- Which of the two places comes first does not matter.
  wlog hij : i < j generalizing i j
  · have hdistinct : i ≠ j := fun heq => hne (heq ▸ rfl)
    rw [swapped_comm word hdistinct]
    exact this hne.symm (lt_of_le_of_ne (not_lt.1 hij) hdistinct.symm)
  · rw [Ne, hash_eq_iff_of_length_eq (length_swapped ..), weight_swapped word hij.ne]
    apply not_dvd_mul_pow_sub_pow (toNat_sub_ne_zero hne.symm) (abs_toNat_sub_lt _ _)
    · omega
    · omega

/-! ## Words of different lengths -/

lemma weight_lt (word : Bytes) : weight word < 8 * 33 ^ word.length := by
  -- The bound of the induction leaves room for one more digit.
  have hroom : 32 * weight word + 255 ≤ 255 * 33 ^ word.length := by
    induction word with
    | nil => simp [weight]
    | cons b word ih =>
      have hb := b.toNat_lt
      have hdigit : b.toNat * 33 ^ word.length ≤ 255 * 33 ^ word.length :=
        Nat.mul_le_mul_right _ (by omega)
      rw [weight, List.length_cons, pow_succ]
      omega
  omega

lemma unreduced_lt_of_length_lt {word other : Bytes} (hlength : word.length < other.length) :
    unreduced word < unreduced other := by
  have hweight := weight_lt word
  have hpower : 33 ^ (word.length + 1) ≤ 33 ^ other.length :=
    Nat.pow_le_pow_right (by norm_num) hlength
  rw [pow_succ] at hpower
  unfold unreduced
  omega

lemma unreduced_lt_two_pow {word : Bytes} (hlength : word.length ≤ 10) :
    unreduced word < 2 ^ 64 := by
  have hweight := weight_lt word
  have hpower : 33 ^ word.length ≤ 33 ^ 10 := Nat.pow_le_pow_right (by norm_num) hlength
  unfold unreduced
  omega

lemma hash_ne_of_length_ne {word other : Bytes} (hword : word.length ≤ 10)
    (hother : other.length ≤ 10) (hne : word.length ≠ other.length) : hash word ≠ hash other := by
  intro heq
  have hsame : unreduced word = unreduced other :=
    (hash_eq_iff.1 heq).eq_of_lt_of_lt (unreduced_lt_two_pow hword) (unreduced_lt_two_pow hother)
  rcases lt_or_gt_of_ne hne with hlt | hgt
  · exact (unreduced_lt_of_length_lt hlt).ne hsame
  · exact (unreduced_lt_of_length_lt hgt).ne' hsame

/-! ## Damaged keywords -/

namespace Keyword

lemma length_spelling_le (keyword : Keyword) : keyword.spelling.length ≤ 10 := by
  cases keyword <;> decide

lemma length_spelling_ne {keyword other : Keyword} (hne : keyword ≠ other) :
    keyword.spelling.length ≠ other.spelling.length := by
  cases keyword <;> cases other <;> first | contradiction | decide

lemma ofWord?_ne_of_length_ne {keyword : Keyword} {word : Bytes} (hlength : word.length ≤ 10)
    (hne : word.length ≠ keyword.spelling.length) : ofWord? word ≠ some keyword := by
  rw [Ne, ofWord?_eq_some_iff]
  exact hash_ne_of_length_ne hlength keyword.length_spelling_le hne

/-- A word as long as one keyword could only be taken for that one. -/
lemma ofWord?_eq_none {keyword : Keyword} {word : Bytes}
    (hlength : word.length = keyword.spelling.length) (hne : hash word ≠ hash keyword.spelling) :
    ofWord? word = none := by
  rw [Option.eq_none_iff_forall_ne_some]
  intro other
  by_cases heq : other = keyword
  · rw [heq, Ne, ofWord?_eq_some_iff]
    exact hne
  · apply ofWord?_ne_of_length_ne
    · rw [hlength]
      exact keyword.length_spelling_le
    · rw [hlength]
      exact length_spelling_ne (Ne.symm heq)

end Keyword

/-- The hash of a word changes with any one octet and, in a word of fewer than `2 ^ 52` octets, with any
two unequal octets that change places; words of at most ten octets that differ in length differ in
their hash.  So a keyword with one letter replaced, or with two letters swapped, is no keyword at all,
and no short word of another length is taken for it. -/
theorem hash_notices_damage :
    (∀ (word : Bytes) (i : Fin word.length) (b : UInt8),
      b ≠ word[i] → hash (word.set i b) ≠ hash word) ∧
    (∀ (word : Bytes) (i j : Fin word.length),
      word.length < 2 ^ 52 → word[i] ≠ word[j] → hash (swapped word i j) ≠ hash word) ∧
    (∀ word other : Bytes, word.length ≤ 10 → other.length ≤ 10 →
      word.length ≠ other.length → hash word ≠ hash other) ∧
    ∀ keyword : Keyword,
      (∀ (i : Fin keyword.spelling.length) (b : UInt8),
        b ≠ keyword.spelling[i] → Keyword.ofWord? (keyword.spelling.set i b) = none) ∧
      (∀ i j : Fin keyword.spelling.length, keyword.spelling[i] ≠ keyword.spelling[j] →
        Keyword.ofWord? (swapped keyword.spelling i j) = none) ∧
      ∀ word : Bytes, word.length ≤ 10 → word.length ≠ keyword.spelling.length →
        Keyword.ofWord? word ≠ some keyword := by
  refine ⟨fun word i b hb => hash_set_ne word i.isLt hb,
    fun word i j hlength hne => hash_swapped_ne word hlength hne,
    fun word other hword hother hne => hash_ne_of_length_ne hword hother hne, ?_⟩
  intro keyword
  have hshort : keyword.spelling.length < 2 ^ 52 :=
    keyword.length_spelling_le.trans_lt (by norm_num)
  refine ⟨?_, ?_, ?_⟩
  · intro i b hb
    apply Keyword.ofWord?_eq_none (List.length_set ..)
    exact hash_set_ne _ i.isLt hb
  · intro i j hne
    apply Keyword.ofWord?_eq_none (length_swapped ..)
    exact hash_swapped_ne _ hshort hne
  · intro word hlength hne
    exact Keyword.ofWord?_ne_of_length_ne hlength hne

/-- One letter of `INVOKE` is replaced, its first and its last one are swapped, and it is read with one
letter too many; in `SCRIPT_END` two neighbours are swapped. -/
theorem hash_notices_damage_of_keywords :
    (hash (Bytes.ofString "INXOKE") ≠ hash (Bytes.ofString "INVOKE") ∧
      Keyword.ofWord? (Bytes.ofString "INXOKE") = none) ∧
    (hash (Bytes.ofString "ENVOKI") ≠ hash (Bytes.ofString "INVOKE") ∧
      Keyword.ofWord? (Bytes.ofString "ENVOKI") = none) ∧
    (hash (Bytes.ofString "INVOKES") ≠ hash (Bytes.ofString "INVOKE") ∧
      Keyword.ofWord? (Bytes.ofString "INVOKES") ≠ some .invoke) ∧
    Keyword.ofWord? (Bytes.ofString "SCRIPT_NED") = none := by
  obtain ⟨hset, hswap, hlength, hkeyword⟩ := hash_notices_damage
  obtain ⟨hletter, hletters, hword⟩ := hkeyword .invoke
  obtain ⟨-, hneighbours, -⟩ := hkeyword .stop
  refine ⟨⟨?_, ?_⟩, ⟨?_, ?_⟩, ⟨?_, ?_⟩, ?_⟩
  · exact hset (Bytes.ofString "INVOKE") ⟨2, by decide⟩ 0x58 (by decide)
  · exact hletter ⟨2, by decide⟩ 0x58 (by decide)
  · exact hswap (Bytes.ofString "INVOKE") ⟨0, by decide⟩ ⟨5, by decide⟩ (by decide) (by decide)
  · exact hletters ⟨0, by decide⟩ ⟨5, by decide⟩ (by decide)
  · exact hlength _ _ (by decide) (by decide) (by decide)
  · exact hword _ (by decide) (by decide)
  · exact hneighbours ⟨7, by decide⟩ ⟨8, by decide⟩ (by decide)

/-- Two neighbours that change together can leave the hash as it was. -/
example : Keyword.ofWord? (Bytes.ofString "IMwOKE") = some .invoke := by decide

end FlightScript.Script
