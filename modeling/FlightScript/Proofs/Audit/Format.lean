import FlightScript.Audit.Record
import Mathlib.Tactic.Lemma
/-!
# The format of the audit log

A log is read to its end exactly if it is records back to back, and then to those records.  A log that
is not has one of two faults: a complete record whose status octet means nothing, or octets left over
behind the last complete record.  A log may have both; the status octet is then reported, and of
several such octets the first.

The two faults are said of the log alone, by the place of its octets (`statusByte?`), and not by how
it is read.  `decodeAll_verdict` shows in one induction which of the three a reading has come to; the
three exclude each other, and so each of them is an equivalence (`format_exact`).
-/

namespace FlightScript

/-- The octets that stand for a status are those up to 8. -/
lemma Status.ofByte?_eq_none_iff {b : UInt8} : ofByte? b = none ↔ 8 < b := by
  have hbytes : all.map byte = (List.range 9).map UInt8.ofNat := rfl
  have hall : (∃ status ∈ all, status.byte = b) ↔ b.toNat < 9 := by
    rw [← List.mem_map, hbytes, List.mem_map]
    simp only [List.mem_range]
    constructor
    · rintro ⟨n, hn, rfl⟩
      rw [UInt8.toNat_ofNat']
      omega
    · intro hb
      exact ⟨b.toNat, hb, UInt8.ofNat_toNat⟩
  have hlt : 8 < b ↔ ¬ b.toNat < 9 := by
    rw [UInt8.lt_iff_toNat_lt]
    show 8 < b.toNat ↔ _
    omega
  rw [hlt, ← hall, ofByte?, List.find?_eq_none]
  simp

namespace Audit

variable {log rest : Bytes} {record : Record}

/-! ## Status octets by their place -/

/-- The status octet of a record of a log, counted from 0.  There is one if the log holds the record
completely, since it is the last octet of the record. -/
def statusByte? (log : Bytes) (i : Nat) : Option UInt8 :=
  log[Record.width * i + (Record.width - 1)]?

/-- In every complete record the status octet stands for a status. -/
def AllKnown (log : Bytes) : Prop :=
  ∀ i b, statusByte? log i = some b → b ≤ 8

/-- In some complete record the status octet stands for none, and in the first of these it is `b`. -/
def FirstUnknown (log : Bytes) (b : UInt8) : Prop :=
  ∃ i, statusByte? log i = some b ∧ 8 < b ∧ ∀ j < i, ∀ c, statusByte? log j = some c → c ≤ 8

lemma statusByte?_eq_none (h : log.length < Record.width) (i : Nat) : statusByte? log i = none := by
  apply List.getElem?_eq_none
  simp only [Record.width] at h ⊢
  omega

lemma statusByte?_encode_append_zero (record : Record) (rest : Bytes) :
    statusByte? (record.encode ++ rest) 0 = some record.status.byte := rfl

lemma statusByte?_encode_append_succ (record : Record) (rest : Bytes) (i : Nat) :
    statusByte? (record.encode ++ rest) (i + 1) = statusByte? rest i := by
  have hplace : Record.width * (i + 1) + (Record.width - 1) =
      record.encode.length + (Record.width * i + (Record.width - 1)) := by
    rw [Record.length_encode, Nat.mul_succ]
    omega
  rw [statusByte?, hplace, List.getElem?_append_right (Nat.le_add_right ..), Nat.add_sub_cancel_left]
  rfl

lemma Record.status_byte_le (record : Record) : record.status.byte ≤ 8 := by
  have := record.status.byte_lt
  rw [UInt8.lt_iff_toNat_lt] at this
  rw [UInt8.le_iff_toNat_le]
  exact Nat.le_of_lt_succ this

/-- A record in front is complete and has a status, so faults are those of what follows. -/
lemma allKnown_encode_append : AllKnown (record.encode ++ rest) ↔ AllKnown rest := by
  constructor
  · intro h i b hb
    exact h (i + 1) b (by rwa [statusByte?_encode_append_succ])
  · intro h i b hb
    cases i with
    | zero =>
      rw [statusByte?_encode_append_zero] at hb
      obtain rfl := Option.some.inj hb
      exact record.status_byte_le
    | succ i => exact h i b (by rwa [statusByte?_encode_append_succ] at hb)

lemma FirstUnknown.encode_append {b : UInt8} (h : FirstUnknown rest b) (record : Record) :
    FirstUnknown (record.encode ++ rest) b := by
  obtain ⟨i, hb, hunknown, hbefore⟩ := h
  refine ⟨i + 1, by rwa [statusByte?_encode_append_succ], hunknown, ?_⟩
  intro j hj c hc
  cases j with
  | zero =>
    rw [statusByte?_encode_append_zero] at hc
    obtain rfl := Option.some.inj hc
    exact record.status_byte_le
  | succ j =>
    rw [statusByte?_encode_append_succ] at hc
    exact hbefore j (Nat.lt_of_succ_lt_succ hj) c hc

lemma AllKnown.not_firstUnknown {b : UInt8} (h : AllKnown log) : ¬ FirstUnknown log b := by
  rintro ⟨i, hb, hunknown, -⟩
  exact absurd hunknown (UInt8.not_lt.2 (h i b hb))

/-- There is one first record of those. -/
lemma FirstUnknown.unique {b c : UInt8} (hb : FirstUnknown log b) (hc : FirstUnknown log c) :
    b = c := by
  obtain ⟨i, hbyte, hunknown, hbefore⟩ := hb
  obtain ⟨j, hbyte', hunknown', hbefore'⟩ := hc
  rcases Nat.lt_trichotomy i j with hij | rfl | hji
  · exact absurd hunknown (UInt8.not_lt.2 (hbefore' i hij b hbyte))
  · exact Option.some.inj (hbyte.symm.trans hbyte')
  · exact absurd hunknown' (UInt8.not_lt.2 (hbefore j hji c hbyte'))

/-! ## One record -/

namespace Record

/-- A log shorter than a record, or the octets of its first record. -/
lemma length_lt_or_exists (log : Bytes) : log.length < width ∨
    ∃ k₁ k₀ t₃ t₂ t₁ t₀ s rest, log = k₁ :: k₀ :: t₃ :: t₂ :: t₁ :: t₀ :: s :: rest := by
  match log with
  | k₁ :: k₀ :: t₃ :: t₂ :: t₁ :: t₀ :: s :: rest => exact .inr ⟨k₁, k₀, t₃, t₂, t₁, t₀, s, rest, rfl⟩
  | [] | [_] | [_, _] | [_, _, _] | [_, _, _, _] | [_, _, _, _, _] | [_, _, _, _, _, _] =>
    left
    simp [width]

lemma decode_eq_none_iff : decode log = .ok none ↔ log.length < width := by
  obtain hshort | ⟨k₁, k₀, t₃, t₂, t₁, t₀, s, rest, rfl⟩ := length_lt_or_exists log
  · simp only [hshort, iff_true]
    unfold decode
    split
    · simp only [List.length_cons, width] at hshort
      omega
    · rfl
  · have hlong : ¬ (k₁ :: k₀ :: t₃ :: t₂ :: t₁ :: t₀ :: s :: rest).length < width := by
      simp only [List.length_cons, width]
      omega
    simp only [hlong, iff_false]
    unfold decode
    simp only
    split <;> nofun

/-- A record is refused exactly for its status octet. -/
lemma decode_eq_error_iff {e : ReadError} :
    decode log = .error e ↔ ∃ b, statusByte? log 0 = some b ∧ 8 < b ∧ e = .unknownStatus b := by
  obtain hshort | ⟨k₁, k₀, t₃, t₂, t₁, t₀, s, rest, rfl⟩ := length_lt_or_exists log
  · rw [decode_eq_none_iff.2 hshort, statusByte?_eq_none hshort]
    simp
  · have hbyte : statusByte? (k₁ :: k₀ :: t₃ :: t₂ :: t₁ :: t₀ :: s :: rest) 0 = some s := rfl
    simp only [hbyte, Option.some.injEq, exists_eq_left', ← Status.ofByte?_eq_none_iff]
    unfold decode
    simp only
    split
    · next hunknown => simp [hunknown, eq_comm]
    · next status hknown => simp [hknown]

lemma decode_eq_some_iff : decode log = .ok (some (record, rest)) ↔ log = record.encode ++ rest := by
  constructor
  · exact eq_encode_append_of_decode
  · rintro rfl
    exact decode_encode_append record rest

/-! What is left behind a reading is all of the log, unless a record was taken. -/

lemma next_eq_none_iff {left : Bytes} :
    next log = (.ok none, left) ↔ log.length < width ∧ left = log := by
  rw [← decode_eq_none_iff, next]
  rcases decode log with e | _ | ⟨record, rest⟩ <;> simp [eq_comm]

lemma next_eq_error_iff {e : ReadError} {left : Bytes} :
    next log = (.error e, left) ↔
      (∃ b, statusByte? log 0 = some b ∧ 8 < b ∧ e = .unknownStatus b) ∧ left = log := by
  rw [← decode_eq_error_iff, next]
  rcases decode log with e' | _ | ⟨record, rest⟩ <;> simp [eq_comm]

lemma next_eq_some_iff {left : Bytes} :
    next log = (.ok (some record), left) ↔ log = record.encode ++ left := by
  rw [← decode_eq_some_iff, next]
  rcases decode log with e | _ | ⟨record', rest⟩ <;> simp

end Record

/-! ## A whole log -/

lemma decodeAll_of_error {e : ReadError} (h : Record.decode log = .error e) :
    decodeAll log = .error e := by
  rw [decodeAll]
  split <;> simp_all

lemma decodeAll_of_none (h : Record.decode log = .ok none) :
    decodeAll log = if log.isEmpty then .ok [] else .error (.trailingBytes log.length) := by
  rw [decodeAll]
  split <;> simp_all

lemma decodeAll_of_some (h : Record.decode log = .ok (some (record, rest))) :
    decodeAll log = (record :: ·) <$> decodeAll rest := by
  rw [decodeAll]
  split <;> simp_all

@[simp] lemma encodeAll_cons (record : Record) (records : List Record) :
    encodeAll (record :: records) = record.encode ++ encodeAll records := rfl

lemma encodeAll_append (front back : List Record) :
    encodeAll (front ++ back) = encodeAll front ++ encodeAll back :=
  List.flatMap_append

/-- Records that were written are read again. -/
lemma decodeAll_encodeAll (records : List Record) : decodeAll (encodeAll records) = .ok records := by
  induction records with
  | nil => exact decodeAll_of_none rfl
  | cons record records ih =>
    rw [encodeAll_cons, decodeAll_of_some (Record.decode_encode_append record _), ih]
    rfl

/-- **What a reading has come to is true of the log.** -/
lemma decodeAll_verdict (log : Bytes) :
    match decodeAll log with
    | .ok records => log = encodeAll records
    | .error (.unknownStatus b) => FirstUnknown log b
    | .error (.trailingBytes k) => AllKnown log ∧ k = log.length % Record.width ∧ k ≠ 0 := by
  induction log using decodeAll.induct with
  | case1 log e h =>
    rw [decodeAll_of_error h]
    obtain ⟨b, hbyte, hunknown, rfl⟩ := Record.decode_eq_error_iff.1 h
    exact ⟨0, hbyte, hunknown, nofun⟩
  | case2 log h hempty =>
    rw [decodeAll_of_none h, if_pos hempty]
    exact List.isEmpty_iff.1 hempty
  | case3 log h hempty =>
    rw [decodeAll_of_none h, if_neg hempty]
    have hshort := Record.decode_eq_none_iff.1 h
    refine ⟨?_, (Nat.mod_eq_of_lt hshort).symm, by simpa using hempty⟩
    intro i b hb
    rw [statusByte?_eq_none hshort] at hb
    cases hb
  | case4 log record rest h ih =>
    rw [decodeAll_of_some h]
    obtain rfl := Record.eq_encode_append_of_decode h
    rcases hrest : decodeAll rest with (b | k) | records
    · rw [hrest] at ih
      exact ih.encode_append record
    · rw [hrest] at ih
      obtain ⟨hknown, hk, hne⟩ := ih
      refine ⟨allKnown_encode_append.2 hknown, ?_, hne⟩
      rw [List.length_append, Record.length_encode, Nat.add_mod_left]
      exact hk
    · rw [hrest] at ih
      exact congrArg (record.encode ++ ·) ih

lemma decodeAll_eq_ok_iff {records : List Record} :
    decodeAll log = .ok records ↔ log = encodeAll records := by
  constructor
  · intro h
    have hverdict := decodeAll_verdict log
    rwa [h] at hverdict
  · rintro rfl
    exact decodeAll_encodeAll records

lemma allKnown_encodeAll (records : List Record) : AllKnown (encodeAll records) := by
  induction records with
  | nil =>
    intro i b hb
    cases hb
  | cons record records ih => exact allKnown_encode_append.2 ih

lemma decodeAll_eq_unknownStatus_iff {b : UInt8} :
    decodeAll log = .error (.unknownStatus b) ↔ FirstUnknown log b := by
  have hverdict := decodeAll_verdict log
  constructor
  · intro h
    rwa [h] at hverdict
  · intro h
    rcases hread : decodeAll log with (c | k) | records
    · rw [hread] at hverdict
      rw [h.unique hverdict]
    · rw [hread] at hverdict
      exact absurd h hverdict.1.not_firstUnknown
    · rw [hread] at hverdict
      subst hverdict
      exact absurd h (allKnown_encodeAll records).not_firstUnknown

lemma decodeAll_eq_trailingBytes_iff {k : Nat} :
    decodeAll log = .error (.trailingBytes k) ↔
      AllKnown log ∧ k = log.length % Record.width ∧ k ≠ 0 := by
  have hverdict := decodeAll_verdict log
  constructor
  · intro h
    rwa [h] at hverdict
  · rintro ⟨hknown, rfl, hne⟩
    rcases hread : decodeAll log with (c | k) | records
    · rw [hread] at hverdict
      exact absurd hverdict hknown.not_firstUnknown
    · rw [hread] at hverdict
      rw [hverdict.2.1]
    · rw [hread] at hverdict
      subst hverdict
      rw [length_encodeAll, Nat.mul_mod_right] at hne
      exact absurd rfl hne

/-- **The format is exact.**  A log is read to some records exactly if it is those records back to
back; it is refused for a status octet exactly if that is the first unknown one in a complete record,
however long the log is; and it is refused as cut off exactly if every complete record has a known
status and the log is not a whole number of records long, by as many octets as it is too long.

A single reading waits for more exactly if the log is shorter than a record, and is refused exactly if the
status octet of the first record is unknown; both leave the log as it is.  Otherwise it takes a record, the
first seven octets, and leaves what is behind them. -/
theorem format_exact (log : Bytes) :
    (∀ records, decodeAll log = .ok records ↔ log = encodeAll records) ∧
    (∀ b, decodeAll log = .error (.unknownStatus b) ↔ FirstUnknown log b) ∧
    (∀ k, decodeAll log = .error (.trailingBytes k) ↔
      AllKnown log ∧ k = log.length % Record.width ∧ k ≠ 0) ∧
    (∀ left, Record.next log = (.ok none, left) ↔ log.length < Record.width ∧ left = log) ∧
    (∀ e left, Record.next log = (.error e, left) ↔
      (∃ b, statusByte? log 0 = some b ∧ 8 < b ∧ e = .unknownStatus b) ∧ left = log) ∧
    ∀ record left, Record.next log = (.ok (some record), left) ↔
      log = record.encode ++ left ∧ left = log.drop Record.width := by
  refine ⟨fun _ => decodeAll_eq_ok_iff, fun _ => decodeAll_eq_unknownStatus_iff,
    fun _ => decodeAll_eq_trailingBytes_iff, fun _ => Record.next_eq_none_iff,
    fun _ _ => Record.next_eq_error_iff, fun record left => ?_⟩
  rw [Record.next_eq_some_iff, iff_self_and]
  intro hfront
  rw [hfront, List.drop_left' record.length_encode]

end Audit

end FlightScript
