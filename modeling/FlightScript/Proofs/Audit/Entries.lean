import FlightScript.Command.Execution
import FlightScript.Proofs.Audit.Format
/-!
# What is written to the audit log

The audit log changes by appends only, so what the software does to it between two moments is a list
of records whose append was tried.  `Spacecraft.Audits` relates two moments by what these records
say; when they were written is left open, since that is up to the clock.  It composes
(`Spacecraft.Audits.trans`), and there is one lemma for every operation.

Nothing in this relation depends on whether the storage takes the appends.  Where it takes all of
them (`Audit.Trail.Holds`), the log afterwards is what it was before and the records behind it
(`Audit.Trail.Holds.appendAll`), and it can be read exactly if it could be read before
(`Audit.exists_decodeAll_append_iff`).
-/

namespace FlightScript

namespace Audit

/-- What a record says, whenever it was written: the kind of a command and a status. -/
abbrev Entry := UInt16 × Status

def Record.entry (record : Record) : Entry := (record.kind, record.status)

/-! ## Reading a log that has grown -/

lemma encodeAll_take (records : List Record) (n : Nat) :
    encodeAll (records.take n) = (encodeAll records).take (Record.width * n) := by
  induction records generalizing n with
  | nil => simp [encodeAll]
  | cons record records ih =>
    cases n with
    | zero => simp [encodeAll]
    | succ n =>
      have hfront : Record.width * (n + 1) = record.encode.length + Record.width * n := by
        rw [Record.length_encode, Nat.mul_succ, Nat.add_comm]
      rw [List.take_succ_cons, encodeAll_cons, encodeAll_cons, ih, hfront, List.take_length_add_append]

/-- Whole records behind a log make it neither readable nor unreadable. -/
lemma exists_decodeAll_append_iff {log : Bytes} {added : List Record} :
    (∃ all, decodeAll (log ++ encodeAll added) = .ok all) ↔ ∃ earlier, decodeAll log = .ok earlier := by
  simp only [decodeAll_eq_ok_iff]
  constructor
  · rintro ⟨all, hall⟩
    -- all is a whole number of records long, and so is what was added, so the log is as well
    have hlength : log.length + Record.width * added.length = Record.width * all.length := by
      rw [← length_encodeAll added, ← length_encodeAll all, ← hall, List.length_append]
    have hcount : log.length = Record.width * (all.length - added.length) := by
      rw [Nat.mul_sub, ← hlength, Nat.add_sub_cancel]
    refine ⟨all.take (all.length - added.length), ?_⟩
    rw [encodeAll_take, ← hcount, ← hall, List.take_left]
  · rintro ⟨earlier, rfl⟩
    exact ⟨earlier ++ added, (encodeAll_append earlier added).symm⟩

lemma decodeAll_append {log : Bytes} {earlier : List Record} (h : decodeAll log = .ok earlier)
    (added : List Record) : decodeAll (log ++ encodeAll added) = .ok (earlier ++ added) := by
  rw [decodeAll_eq_ok_iff] at h ⊢
  rw [h, encodeAll_append]

namespace Trail

variable {trail : Trail} {octets : Bytes}

/-- A log after the appends of some records were tried, in order. -/
def appendAll (trail : Trail) (records : List Record) : Trail :=
  records.foldl (fun trail record => (trail.append record).2) trail

lemma appendAll_append (trail : Trail) (front back : List Record) :
    trail.appendAll (front ++ back) = (trail.appendAll front).appendAll back :=
  List.foldl_append

/-- A log whose storage takes every append, with what it holds.  A file that does not exist yet holds
nothing. -/
def Holds (trail : Trail) (octets : Bytes) : Prop :=
  ∃ file, trail = .enabled file ∧ (∀ attempt, file.refusal attempt = none) ∧ file.read = .ok octets

lemma Holds.append (h : trail.Holds octets) (record : Record) :
    (trail.append record).2.Holds (octets ++ record.encode) := by
  obtain ⟨⟨medium, attempts, refusal⟩, rfl, hrefusal, hread⟩ := h
  have hnow : refusal attempts = none := hrefusal attempts
  cases medium with
  | absent =>
    obtain rfl : [] = octets := Except.ok.inj hread
    simp only [Trail.append, LogFile.append, hnow]
    exact ⟨_, rfl, hrefusal, rfl⟩
  | file contents =>
    obtain rfl : contents = octets := Except.ok.inj hread
    simp only [Trail.append, LogFile.append, hnow]
    exact ⟨_, rfl, hrefusal, rfl⟩
  | directory => cases hread

lemma Holds.appendAll (h : trail.Holds octets) (records : List Record) :
    (trail.appendAll records).Holds (octets ++ encodeAll records) := by
  induction records generalizing trail octets with
  | nil => simpa [Trail.appendAll, encodeAll] using h
  | cons record records ih =>
    rw [encodeAll_cons, ← List.append_assoc]
    exact ih (h.append record)

/-- Such a log is read as what it holds. -/
lemma Holds.readAll_eq_ok_iff (h : trail.Holds octets) {records : List Record} :
    trail.readAll = .ok records ↔ decodeAll octets = .ok records := by
  obtain ⟨file, rfl, -, hread⟩ := h
  simp only [readAll, hread]
  cases decodeAll octets <;> simp

end Trail

end Audit

/-! ## Between two moments -/

namespace Spacecraft

variable {before middle after : Spacecraft} {entries entries' : List Audit.Entry}

/-- Between two moments, the append of records that say this was tried, in this order, and nothing else
was done to the audit log. -/
def Audits (before after : Spacecraft) (entries : List Audit.Entry) : Prop :=
  ∃ records : List Audit.Record,
    after.audit = before.audit.appendAll records ∧ records.map Audit.Record.entry = entries

/-- What leaves the audit log alone writes nothing to it. -/
lemma audits_nil_of_audit (h : after.audit = before.audit) : before.Audits after [] :=
  ⟨[], h, rfl⟩

/-- It is a matter of the audit log only. -/
lemma Audits.congr {before' after' : Spacecraft} (h : before.Audits after entries)
    (hbefore : before'.audit = before.audit) (hafter : after'.audit = after.audit) :
    before'.Audits after' entries := by
  obtain ⟨records, haudit, hentries⟩ := h
  exact ⟨records, by rw [hafter, hbefore, haudit], hentries⟩

lemma Audits.trans (h : before.Audits middle entries) (h' : middle.Audits after entries') :
    before.Audits after (entries ++ entries') := by
  obtain ⟨records, haudit, rfl⟩ := h
  obtain ⟨records', haudit', rfl⟩ := h'
  exact ⟨records ++ records', by rw [haudit', haudit, Audit.Trail.appendAll_append], List.map_append⟩

lemma audits_recordStatus (craft : Spacecraft) (kind : UInt16) (status : Status) :
    craft.Audits (craft.recordStatus kind status) [(kind, status)] :=
  ⟨[⟨kind, craft.timestamp, status⟩], rfl, rfl⟩

end Spacecraft

namespace Command

/-- What the audit log is told when a command of a kind has reached a status: nothing, for the kind that
is kept out of it. -/
def entriesOf (kind : UInt16) (status : Status) : List Audit.Entry :=
  if kind = unauditedKind then [] else [(kind, status)]

lemma audits_recordStatus (command : Command) (craft : Spacecraft) :
    craft.Audits (command.recordStatus craft) (entriesOf command.kind command.status) := by
  unfold recordStatus isAudited entriesOf
  by_cases h : command.kind = unauditedKind
  · simpa [h] using Spacecraft.audits_nil_of_audit rfl
  · simpa [h] using craft.audits_recordStatus command.kind command.status

/-- A command that is concluded is recorded with the status it has come to. -/
lemma audits_conclude {command : Command} (hexecuting : command.status = .executing) (ending : Ending)
    (craft : Spacecraft) :
    craft.Audits (command.conclude ending craft).2 (entriesOf command.kind ending.status) := by
  have hstatus : (command.status.process ending.event).2 = ending.status := by
    simp [hexecuting, Status.process]
  have hrecord := (command.withStatus ending.status).audits_recordStatus
    (craft.say (command.endingLine ending))
  simp only [conclude, hstatus]
  exact hrecord.congr rfl rfl

end Command

/-! ## Activities

No activity writes to the audit log, neither in its first stretch nor in a later one. -/

@[simp] lemma Activity.audit_run (activity : Activity) (craft : Spacecraft) :
    (activity.run craft).2.audit = craft.audit := by
  induction activity generalizing craft with
  | finish ending => rfl
  | log line next ih => exact ih (craft.say line)
  | note text next ih => exact ih (craft.enter (.note text))
  | count next ih => exact ih craft.counter { craft with counter := craft.counter + 1 }
  | observe next ih => exact ih craft.readings craft
  | write payload port timeout next ih =>
    unfold run
    split
    · next written link _ => exact ih written { craft with link }
    · rfl
  | pause milliseconds next ih =>
    unfold run
    split
    · exact ih craft
    · rfl
  | never => rfl
  | crash => rfl

@[simp] lemma Wait.audit_resume (wait : Wait) (craft : Spacecraft) :
    (wait.resume craft).2.audit = craft.audit := by
  unfold resume
  split
  · split
    · exact Activity.audit_run _ craft
    · rfl
  · split
    · next next _ written link _ => exact Activity.audit_run (next written) { craft with link }
    · rfl
  · rfl

@[simp] lemma Wait.audit_drop (wait : Wait) (craft : Spacecraft) :
    (wait.drop craft).audit = craft.audit := by
  unfold drop
  split <;> rfl

end FlightScript
