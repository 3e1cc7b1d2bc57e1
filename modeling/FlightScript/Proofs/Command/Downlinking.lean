import FlightScript.Builtin
import FlightScript.Proofs.Command.SingleUse
import FlightScript.Proofs.Link.Uplink
import FlightScript.Proofs.Link.Writing
/-!
# What a command says of its downlink

`echo` and `status` each send one packet, if they send anything, and the ground is to learn from the status
of the command whether it was sent.  On the way to that status stand the behaviour, its time limit for the
write, the link with its reasons to refuse, a consumer that makes room or goes away meanwhile, and the
deadline of the execution, which may drop the write half way.

What an execution has sent is read off the downlink queue before and after each of its turns
(`Command.Sends`), so nothing is taken from what the execution says of itself.  Between two turns anything
may happen to the queue; only a queue it must stay.

A turn of an execution that downlinks ends it or leaves it waiting (`Fares`), and where it ends, the status
and what the turn put on the queue fit together (`EndsWith`).  An execution that waits has sent nothing so
far, so what is true of the turn that ends it is true of all of it.
-/

namespace FlightScript

/-- Packets that are queued to go down. -/
def Link.downlinked : Link → List Packet
  | queue q => q.downlink
  | steady .. => []

/-- What happens aboard and on the ground leaves the link a queue. -/
def Interlude.KeepsQueue (interlude : Interlude) : Prop :=
  ∀ craft queue, craft.link = .queue queue → ∃ left, (interlude craft).link = .queue left

/-! ## What an execution sends -/

namespace Command

namespace Attempt

/-- The next turn of an attempt puts these packets behind what is queued then.  An attempt that is over has
no next turn. -/
def Puts (attempt : Attempt) (interlude : Interlude) (packets : List Packet) : Prop :=
  match attempt.progress with
  | .ready _ => packets = []
  | .waiting _ => (attempt.next interlude).craft.link.downlinked =
      (interlude attempt.craft).link.downlinked ++ packets

/-- The further turns of an attempt put these packets on the queue, one behind the other, and do nothing
else to it. -/
inductive Sends : Attempt → List Interlude → List Packet → Prop
  | nil (attempt : Attempt) : Sends attempt [] []
  | turn {attempt : Attempt} {interlude : Interlude} {interludes : List Interlude}
      {packets later : List Packet} (hputs : attempt.Puts interlude packets)
      (hrest : Sends (attempt.next interlude) interludes later) :
    Sends attempt (interlude :: interludes) (packets ++ later)

variable {attempt : Attempt} {interludes : List Interlude} {packets packets' : List Packet}

lemma Puts.unique {interlude : Interlude} (h : attempt.Puts interlude packets)
    (h' : attempt.Puts interlude packets') : packets = packets' := by
  unfold Puts at h h'
  split at h
  · next hready =>
    simp only [hready] at h'
    rw [h, h']
  · next hwaiting =>
    simp only [hwaiting] at h'
    exact List.append_cancel_left (h.symm.trans h')

lemma Sends.unique (h : attempt.Sends interludes packets) (h' : attempt.Sends interludes packets') :
    packets = packets' := by
  induction h generalizing packets' with
  | nil => cases h'; rfl
  | turn hputs _ ih =>
    cases h' with
    | turn hputs' hrest' => rw [hputs.unique hputs', ih hrest']

/-- An attempt that is over sends nothing more. -/
lemma sends_of_ready {executed : Executed} (h : attempt.progress = .ready executed)
    (interludes : List Interlude) : attempt.Sends interludes [] := by
  induction interludes with
  | nil => exact .nil attempt
  | cons interlude interludes ih =>
    have hputs : attempt.Puts interlude [] := by simp only [Puts, h]
    have hrest : (attempt.next interlude).Sends interludes [] := by
      rw [next_of_ready h]
      exact ih
    exact .turn hputs hrest

/-- What an attempt has sent when it is over is all that it ever sends. -/
lemma Sends.append_of_ready (h : attempt.Sends interludes packets) {executed : Executed}
    (hready : (interludes.foldl next attempt).progress = .ready executed) (later : List Interlude) :
    attempt.Sends (interludes ++ later) packets := by
  induction h with
  | nil => exact sends_of_ready hready later
  | turn hputs _ ih => exact .turn hputs (ih hready)

end Attempt

/-- An execution puts these packets on the downlink queue, in its first turn and in those after the
interludes, and does nothing else to it. -/
def Sends (command : Command) (allowed : Option Nat) (craft : Spacecraft) (interludes : List Interlude)
    (packets : List Packet) : Prop :=
  ∃ first later, packets = first ++ later ∧
    (command.execute allowed craft).2.link.downlinked = craft.link.downlinked ++ first ∧
    Attempt.Sends (.ofTurn craft [] (command.execute allowed craft)) interludes later

end Command

/-! ## One turn of a downlink -/

/-- How an activity goes on after a turn of its write. -/
def Activity.afterWrite (next : Nat → Activity) (craft : Spacecraft) :
    Progress Link.WriteCall Nat × Link → Activity.Turn
  | (.ready written, link) => (next written).run { craft with link }
  | (.waiting call, link) => (.waiting (.place call next), { craft with link })

namespace Builtin

variable {payload : Bytes} {done : Nat → String} {craft : Spacecraft} {queue : Link.Queue}

/-- What a downlink does with the number of octets that were written. -/
def afterDownlink (payload : Bytes) (done : Nat → String) (written : Nat) : Activity :=
  if written < payload.length then
    .finish (.failed .overflow s!"Downlinked {written} of {payload.length} bytes")
  else .finish (.completed (done written))

/-- How a turn of a downlink goes, and what it puts on the queue. -/
inductive DownlinkTurn (payload : Bytes) (done : Nat → String) (before : Spacecraft) :
    Activity.Turn → List Packet → Prop
  | sent {message : String} {craft : Spacecraft}
      (hlink : craft.link.downlinked = before.link.downlinked ++ [⟨.telemetry, payload⟩]) :
    DownlinkTurn payload done before (.ready (.ended (.completed message)), craft)
      [⟨.telemetry, payload⟩]
  | refused {message : String} {craft : Spacecraft}
      (hlink : craft.link.downlinked = before.link.downlinked) :
    DownlinkTurn payload done before (.ready (.ended (.failed .overflow message)), craft) []
  | waits {request : Link.WriteRequest} {call : Link.WriteCall} {craft : Spacecraft}
      {left : Link.Queue} (hcall : call.Serves request) (hpacket : request.packet = ⟨.telemetry, payload⟩)
      (hqueue : craft.link = .queue left) (hlink : left.downlink = before.link.downlinked) :
    DownlinkTurn payload done before (.waiting (.place call (afterDownlink payload done)), craft) []

/-- A turn of the write is one of the downlink. -/
lemma downlinkTurn_of_writeTurn (hpayload : payload ≠ []) {request : Link.WriteRequest} {now : Nat}
    {turn : Progress Link.WriteCall Nat × Link.Queue} (hturn : queue.WriteTurn request now turn)
    (hpacket : request.packet = ⟨.telemetry, payload⟩) (done : Nat → String)
    (hlink : craft.link = .queue queue) :
    ∃ packets, DownlinkTurn payload done craft
      (Activity.afterWrite (afterDownlink payload done) craft (turn.1, .queue turn.2)) packets := by
  have hdownlinked : craft.link.downlinked = queue.downlink := by rw [hlink]; rfl
  cases hturn with
  | @written left hadmitted hopen hqueue =>
    have hall : ¬ request.packet.payload.length < payload.length := by simp [hpacket]
    refine ⟨[⟨.telemetry, payload⟩], ?_⟩
    unfold Activity.afterWrite afterDownlink
    simp only [if_neg hall]
    refine .sent ?_
    rw [hdownlinked, ← hpacket]
    exact hqueue
  | @refused left hwhy hqueue =>
    have hnone : 0 < payload.length := List.length_pos_iff.2 hpayload
    refine ⟨[], ?_⟩
    unfold Activity.afterWrite afterDownlink
    simp only [if_pos hnone]
    refine .refused ?_
    rw [hdownlinked]
    exact hqueue
  | waits hcall hqueue => exact ⟨_, .waits hcall hpacket rfl (hqueue.trans hdownlinked.symm)⟩

lemma exists_downlinkTurn_run (hpayload : payload ≠ []) (done : Nat → String)
    (hlink : craft.link = .queue queue) :
    ∃ packets, DownlinkTurn payload done craft ((downlink payload done).run craft) packets := by
  have hrun : (downlink payload done).run craft =
      Activity.afterWrite (afterDownlink payload done) craft
        ((queue.beginWrite craft.now ⟨.telemetry, payload⟩ (some downlinkTimeout)).1,
          .queue (queue.beginWrite craft.now ⟨.telemetry, payload⟩ (some downlinkTimeout)).2) := by
    unfold downlink Activity.run
    rw [hlink]
    rfl
  rw [hrun]
  exact downlinkTurn_of_writeTurn hpayload (queue.writeTurn_beginWrite ..) rfl done hlink

lemma exists_downlinkTurn_resume (hpayload : payload ≠ []) {request : Link.WriteRequest}
    {call : Link.WriteCall} (hcall : call.Serves request)
    (hpacket : request.packet = ⟨.telemetry, payload⟩) (done : Nat → String)
    (hlink : craft.link = .queue queue) :
    ∃ packets, DownlinkTurn payload done craft
      ((Wait.place call (afterDownlink payload done)).resume craft) packets := by
  have hresume : (Wait.place call (afterDownlink payload done)).resume craft =
      Activity.afterWrite (afterDownlink payload done) craft
        ((queue.resumeWrite craft.now call).1, .queue (queue.resumeWrite craft.now call).2) := by
    unfold Wait.resume
    rw [hlink]
    rfl
  rw [hresume]
  exact downlinkTurn_of_writeTurn hpayload (queue.writeTurn_resumeWrite _ hcall) hpacket done hlink

end Builtin

/-! ## One turn of the execution -/

namespace Command

@[simp] lemma now_conclude (command : Command) (ending : Ending) (craft : Spacecraft) :
    (command.conclude ending craft).2.now = craft.now := by
  simp only [conclude, recordStatus]
  split <;> rfl

/-- How an execution ends, and what it has put on the queue, if it is asked to send some octets or has a
reason to send none. -/
inductive EndsWith (expiry : Option Nat) (now : Nat) :
    Except Failure Bytes → Status → List Packet → Prop
  | excused {failure : Failure} : EndsWith expiry now (.error failure) (.ended failure) []
  | sent {payload : Bytes} : EndsWith expiry now (.ok payload) .executed [⟨.telemetry, payload⟩]
  | refused {payload : Bytes} : EndsWith expiry now (.ok payload) (.ended .overflow) []
  | overdue {payload : Bytes} (hexpired : expired now expiry = true) :
    EndsWith expiry now (.ok payload) (.ended .failed) []

/-- How an execution stands after a turn that began on `before`, and what that turn has put on the queue. -/
inductive Fares (asked : Except Failure Bytes) (expiry : Option Nat) (before : Spacecraft) :
    Progress Execution Executed × Spacecraft → List Packet → Prop
  | ended {command : Command} {craft : Spacecraft} {packets : List Packet}
      (hends : EndsWith expiry craft.now asked command.status packets)
      (hlink : craft.link.downlinked = before.link.downlinked ++ packets) :
    Fares asked expiry before (.ready (.returned command), craft) packets
  | waits {command : Command} {deadline : Option Deadline} {request : Link.WriteRequest}
      {call : Link.WriteCall} {payload : Bytes} {done : Nat → String} {craft : Spacecraft}
      {left : Link.Queue} (hexecuting : command.status = .executing)
      (hexpiry : deadline.map (·.expiry) = expiry) (hasked : asked = .ok payload)
      (hpayload : payload ≠ []) (hcall : call.Serves request)
      (hpacket : request.packet = ⟨.telemetry, payload⟩) (hqueue : craft.link = .queue left)
      (hlink : left.downlink = before.link.downlinked) :
    Fares asked expiry before
      (.waiting ⟨command, .place call (Builtin.afterDownlink payload done), deadline⟩, craft) []

variable {command : Command} {asked : Except Failure Bytes} {payload : Bytes} {done : Nat → String}
  {expiry : Option Nat} {deadline : Option Deadline} {before craft : Spacecraft}
  {packets : List Packet} {interludes : List Interlude}

/-- Only what was queued before matters. -/
lemma Fares.congr {before' : Spacecraft} {turn : Progress Execution Executed × Spacecraft}
    (h : Fares asked expiry before turn packets)
    (hlink : before.link.downlinked = before'.link.downlinked) :
    Fares asked expiry before' turn packets := by
  cases h with
  | ended hends hdownlinked => exact .ended hends (hlink ▸ hdownlinked)
  | waits hexecuting hexpiry hasked hpayload hcall hpacket hqueue hdownlink =>
    exact .waits hexecuting hexpiry hasked hpayload hcall hpacket hqueue (hdownlink.trans hlink)

lemma fares_conclude (hexecuting : command.status = .executing) {ending : Ending}
    (hends : EndsWith expiry craft.now asked ending.status packets)
    (hlink : craft.link.downlinked = before.link.downlinked ++ packets) :
    Fares asked expiry before
      (.ready (.returned (command.conclude ending craft).1), (command.conclude ending craft).2)
      packets := by
  refine .ended ?_ ?_
  · rw [now_conclude, fst_conclude hexecuting]
    exact hends
  · rw [link_conclude]
    exact hlink

/-- **A turn of the execution is one of the downlink**, unless the deadline has come.  Then the write is
dropped, and what it had not put on the queue by then it never will. -/
lemma fares_settle (hexecuting : command.status = .executing)
    (hexpiry : deadline.map (·.expiry) = expiry) (hpayload : payload ≠ []) {turn : Activity.Turn}
    (h : Builtin.DownlinkTurn payload done before turn packets) :
    Fares (.ok payload) expiry before (Execution.settle command deadline turn) packets := by
  cases h with
  | sent hlink => exact fares_conclude hexecuting .sent hlink
  | refused hlink => exact fares_conclude hexecuting .refused (by rw [hlink, List.append_nil])
  | @waits request call craft left hcall hpacket hqueue hlink =>
    cases hexpired : expired craft.now (deadline.map (·.expiry)) with
    | false =>
      rw [Execution.settle_waiting hexpired]
      exact .waits hexecuting hexpiry rfl hpayload hcall hpacket hqueue hlink
    | true =>
      obtain ⟨ending, hstatus, hsettle⟩ := Execution.settle_overdue command
        (.place call (Builtin.afterDownlink payload done)) hexpired
      rw [hsettle]
      refine fares_conclude hexecuting ?_ ?_
      · rw [hstatus]
        exact .overdue (hexpiry ▸ hexpired)
      · have hdrop : (craft.link.dropWrite call).downlinked = left.downlink := by
          rw [hqueue]
          exact left.downlink_endWrite call.ticket
        rw [List.append_nil, ← hlink]
        exact hdrop

/-- The first turn of an execution that has a reason to send nothing is its last. -/
lemma fares_settle_of_excused (hexecuting : command.status = .executing) (failure : Failure)
    (message : String) (hlink : craft.link.downlinked = before.link.downlinked) :
    Fares (.error failure) expiry before
      (Execution.settle command deadline (.ready (.ended (.failed failure message)), craft)) [] :=
  fares_conclude hexecuting .excused (by rw [hlink, List.append_nil])

/-! ## All turns -/

/-- What an execution has sent so far fits where it stands. -/
def Attempt.Tells (attempt : Attempt) (asked : Except Failure Bytes) (expiry : Option Nat)
    (sent : List Packet) : Prop :=
  match attempt.progress with
  | .ready (.returned command) => EndsWith expiry attempt.craft.now asked command.status sent
  | .ready .crashed => False
  | .waiting _ => sent = []

lemma Fares.downlinked_eq {turn : Progress Execution Executed × Spacecraft}
    (h : Fares asked expiry before turn packets) :
    turn.2.link.downlinked = before.link.downlinked ++ packets := by
  cases h with
  | ended _ hlink => exact hlink
  | waits _ _ _ _ _ _ hqueue hlink =>
    rw [hqueue, List.append_nil]
    exact hlink

lemma Fares.tells {attempt : Attempt}
    (h : Fares asked expiry before (attempt.progress, attempt.craft) packets) :
    attempt.Tells asked expiry packets := by
  obtain ⟨progress, craft, entered⟩ := attempt
  cases h with
  | ended hends => exact hends
  | waits => rfl

/-- **Whatever happens meanwhile, an execution that downlinks sends what its status says.** -/
lemma Attempt.exists_sends {attempt : Attempt}
    (h : Fares asked expiry before (attempt.progress, attempt.craft) packets)
    (hkeeps : ∀ interlude ∈ interludes, interlude.KeepsQueue) :
    ∃ later, attempt.Sends interludes later ∧
      (interludes.foldl next attempt).Tells asked expiry (packets ++ later) := by
  induction interludes generalizing attempt before packets with
  | nil =>
    refine ⟨[], .nil attempt, ?_⟩
    rw [List.append_nil]
    exact h.tells
  | cons interlude interludes ih =>
    obtain ⟨hkeeps, hrest⟩ := List.forall_mem_cons.1 hkeeps
    obtain ⟨progress, craft, entered⟩ := attempt
    cases h with
    | @ended command _ _ hends hlink =>
      let finished : Attempt := ⟨.ready (.returned command), craft, entered⟩
      have hnext : Fares asked expiry before
          ((finished.next interlude).progress, (finished.next interlude).craft) packets :=
        .ended hends hlink
      obtain ⟨later, hsends, htells⟩ := ih hnext hrest
      exact ⟨[] ++ later, .turn rfl hsends, htells⟩
    | @waits command deadline request call payload done craft left hexecuting hexpiry hasked hpayload
        hcall hpacket hqueue hlink =>
      obtain ⟨queue, hqueue⟩ := hkeeps craft left hqueue
      obtain ⟨put, hturn⟩ := Builtin.exists_downlinkTurn_resume hpayload hcall hpacket done hqueue
      let execution : Execution := ⟨command, .place call (Builtin.afterDownlink payload done), deadline⟩
      let waiting : Attempt := ⟨.waiting execution, craft, entered⟩
      have hnext : Fares asked expiry (interlude craft)
          ((waiting.next interlude).progress, (waiting.next interlude).craft) put :=
        hasked ▸ fares_settle hexecuting hexpiry hpayload hturn
      obtain ⟨later, hsends, htells⟩ := ih hnext hrest
      exact ⟨put ++ later, .turn hnext.downlinked_eq hsends, htells⟩

end Command

/-! ## The first turn -/

namespace Spacecraft

variable (craft : Spacecraft) (context : Context)

@[simp] lemma link_atEntry : (craft.atEntry context).link = craft.link := by
  unfold atEntry
  split <;> rfl

/-- What a behaviour reads when it is entered is what there was to read before. -/
@[simp] lemma readings_atEntry : (craft.atEntry context).readings = craft.readings := by
  unfold atEntry
  split
  · rfl
  · exact congrArg (Readings.mk craft.link.inRange · craft.uptime) (craft.audit.isEnabled_append _)

end Spacecraft

namespace Builtin

lemma ofString_report_ne_nil (readings : Readings) : Bytes.ofString (report readings) ≠ [] := by
  have happend : ∀ first second : String,
      Bytes.ofString (first ++ second) = Bytes.ofString first ++ Bytes.ofString second := by
    simp [Bytes.ofString]
  have hfront : Bytes.ofString (toString "uptime=") ≠ [] := by decide
  simp only [report, happend]
  simp [hfront]

/-- What an echo is asked to send. -/
def echoed (argument : Bytes) : Except Failure Bytes :=
  if argument = [] then .error .syntaxError else .ok argument

/-- What a report of the status is asked to send. -/
def reported (readings : Readings) : Except Failure Bytes :=
  if readings.inRange then .ok (Bytes.ofString (report readings)) else .error .failed

/-- A behaviour that starts out on `craft` is asked to send some octets, and goes about it, or has a reason
to send none, and ends with that. -/
inductive Starts (asked : Except Failure Bytes) (craft : Spacecraft) : Activity.Turn → Prop
  | excused {failure : Failure} {message : String} (hasked : asked = .error failure) :
    Starts asked craft (.ready (.ended (.failed failure message)), craft)
  | sending {payload : Bytes} {done : Nat → String} {line : Log.Line} (hasked : asked = .ok payload)
      (hpayload : payload ≠ []) :
    Starts asked craft ((downlink payload done).run (craft.say line))

lemma starts_echo (context : Context) (craft : Spacecraft) :
    Starts (echoed context.argument) craft ((echo.start context).run craft) := by
  by_cases hargument : context.argument = []
  · have hstart : echo.start context = .finish (.failed .syntaxError "Nothing to echo") := by
      simp [echo, hargument]
    rw [hstart]
    exact .excused (if_pos hargument)
  · have hstart : echo.start context =
        .log (.info s!"[ECHO] {shownArgument context.argument}")
          (downlink context.argument fun written => s!"Echoed {written} bytes") := by
      simp [echo, hargument]
    rw [hstart]
    exact .sending (if_neg hargument) hargument

lemma starts_status (context : Context) (craft : Spacecraft) :
    Starts (reported craft.readings) craft ((status.start context).run craft) := by
  cases hrange : craft.readings.inRange with
  | false =>
    have hrun : (status.start context).run craft =
        (.ready (.ended (.failed .failed "Ground station out of range")), craft) := by
      simp [status, Activity.run, hrange]
    rw [hrun]
    exact .excused (by simp [reported, hrange])
  | true =>
    have hrun : (status.start context).run craft =
        (downlink (Bytes.ofString (report craft.readings)) fun _ => report craft.readings).run
          (craft.say (.info s!"[STATUS] {report craft.readings}")) := by
      simp [status, Activity.run, hrange]
    rw [hrun]
    exact .sending (by simp [reported, hrange]) (ofString_report_ne_nil _)

end Builtin

namespace Command

variable {command : Command} {craft : Spacecraft} {queue : Link.Queue}

lemma exists_fares_execute {asked : Except Failure Bytes} (hpending : command.status = .pending)
    (hstarts : Builtin.Starts asked (craft.atEntry command.context)
      ((command.behavior.start command.context).run (craft.atEntry command.context)))
    (hlink : craft.link = .queue queue) (allowed : Option Nat) :
    ∃ first, Fares asked (allowed.map (craft.now + ·)) craft (command.execute allowed craft) first := by
  have hentry : (craft.atEntry command.context).link = craft.link := craft.link_atEntry _
  rw [Daemon.execute_of_pending command hpending]
  revert hstarts
  generalize (command.behavior.start command.context).run (craft.atEntry command.context) = turn
  intro hstarts
  cases hstarts with
  | @excused failure message hasked =>
    subst hasked
    exact ⟨[], fares_settle_of_excused rfl failure message (congrArg Link.downlinked hentry)⟩
  | @sending payload done line hasked hpayload =>
    subst hasked
    have hsaid : ((craft.atEntry command.context).say line).link = craft.link := hentry
    obtain ⟨first, hturn⟩ := Builtin.exists_downlinkTurn_run hpayload done (hsaid.trans hlink)
    have hdownlinked := congrArg Link.downlinked hsaid
    exact ⟨first, (fares_settle rfl (Deadline.map_expiry ..) hpayload hturn).congr hdownlinked⟩

/-! ## The whole execution -/

lemma Sends.unique {allowed : Option Nat} {interludes : List Interlude} {packets packets' : List Packet}
    (h : command.Sends allowed craft interludes packets)
    (h' : command.Sends allowed craft interludes packets') : packets = packets' := by
  obtain ⟨first, later, rfl, hfirst, hlater⟩ := h
  obtain ⟨first', later', rfl, hfirst', hlater'⟩ := h'
  rw [List.append_cancel_left (hfirst.symm.trans hfirst'), hlater.unique hlater']

/-- Once an execution has ended, it has sent what it ever sends, and its status says what. -/
lemma exists_sends_of_returned {asked : Except Failure Bytes} (hpending : command.status = .pending)
    (hstarts : Builtin.Starts asked (craft.atEntry command.context)
      ((command.behavior.start command.context).run (craft.atEntry command.context)))
    (hlink : craft.link = .queue queue) (allowed : Option Nat) {interludes : List Interlude}
    (hkeeps : ∀ interlude ∈ interludes, interlude.KeepsQueue) {ended : Command}
    (hended : (command.attempt allowed craft interludes).progress = .ready (.returned ended)) :
    ∃ sent,
      (∀ later packets,
        command.Sends allowed craft (interludes ++ later) packets ↔ packets = sent) ∧
      EndsWith (allowed.map (craft.now + ·)) (command.attempt allowed craft interludes).craft.now asked
        ended.status sent := by
  obtain ⟨first, hfirst⟩ := exists_fares_execute hpending hstarts hlink allowed
  have hattempt : Fares asked (allowed.map (craft.now + ·)) craft
      ((Attempt.ofTurn craft [] (command.execute allowed craft)).progress,
        (Attempt.ofTurn craft [] (command.execute allowed craft)).craft) first := hfirst
  obtain ⟨later, hsends, htells⟩ := Attempt.exists_sends hattempt hkeeps
  have hall : ∀ more, command.Sends allowed craft (interludes ++ more) (first ++ later) := fun more =>
    ⟨first, later, rfl, hfirst.downlinked_eq, hsends.append_of_ready hended more⟩
  refine ⟨first ++ later, ?_, ?_⟩
  · intro more packets
    constructor
    · intro hpackets
      exact hpackets.unique (hall more)
    · rintro rfl
      exact hall more
  · have hprogress : (interludes.foldl Attempt.next
        (.ofTurn craft [] (command.execute allowed craft))).progress = .ready (.returned ended) := hended
    unfold Attempt.Tells at htells
    rw [hprogress] at htells
    exact htells

/-- A status tells the truth about a packet: the packet was sent, alone, if the status says so, and nothing
was sent if it does not. -/
structure TellsTruth (status : Status) (packet : Packet) (sent : List Packet) : Prop where
  executed_iff : status = .executed ↔ sent = [packet]
  eq_nil : status ≠ .executed → sent = []

section EndsWith

variable {expiry : Option Nat} {now : Nat} {failure : Failure} {payload : Bytes} {status : Status}
  {sent : List Packet}

lemma EndsWith.tellsTruth_of_error (h : EndsWith expiry now (.error failure) status sent)
    (packet : Packet) : status = .ended failure ∧ TellsTruth status packet sent := by
  cases h
  exact ⟨rfl, ⟨nofun, nofun⟩, fun _ => rfl⟩

lemma EndsWith.tellsTruth_of_ok (h : EndsWith expiry now (.ok payload) status sent) :
    TellsTruth status ⟨.telemetry, payload⟩ sent ∧
      (status ≠ .executed →
        status = .ended .overflow ∨ status = .ended .failed ∧ expired now expiry = true) := by
  cases h with
  | sent => exact ⟨⟨⟨fun _ => rfl, fun _ => rfl⟩, fun h => absurd rfl h⟩, fun h => absurd rfl h⟩
  | refused => exact ⟨⟨⟨nofun, nofun⟩, fun _ => rfl⟩, fun _ => .inl rfl⟩
  | overdue hexpired => exact ⟨⟨⟨nofun, nofun⟩, fun _ => rfl⟩, fun _ => .inr ⟨rfl, hexpired⟩⟩

end EndsWith

/-- **The status of a command tells the truth about its downlink.**  Let an echo or a report of the status
be executed on a queue in any state, with a deadline or without, and let the consumer and everybody else do
what they like to the queue while the command waits.  When the execution has ended, there is one list of
packets that it has put on the downlink queue, and puts on it however often it is given a turn yet: just
the packet for telemetry with the argument, or with the report, if the status is `executed`, and none
otherwise.  An echo of nothing ends in a syntax error, and a report out of range in failure, whatever the
link, the consumer and the deadline do.  Any other execution that has sent nothing ends in an overflow, or
has missed its deadline. -/
theorem status_tells_what_was_sent {command : Command} {craft : Spacecraft} {queue : Link.Queue}
    (hpending : command.status = .pending) (hlink : craft.link = .queue queue) (allowed : Option Nat)
    {interludes : List Interlude} (hkeeps : ∀ interlude ∈ interludes, interlude.KeepsQueue)
    {ended : Command}
    (hended : (command.attempt allowed craft interludes).progress = .ready (.returned ended)) :
    let now := (command.attempt allowed craft interludes).craft.now
    let overdue := expired now (allowed.map (craft.now + ·)) = true
    let argument := command.argument.bytes
    let report := Bytes.ofString (Builtin.report craft.readings)
    (command.behavior = Builtin.echo →
      ∃ sent,
        (∀ later packets,
          command.Sends allowed craft (interludes ++ later) packets ↔ packets = sent) ∧
        TellsTruth ended.status ⟨.telemetry, argument⟩ sent ∧
        (argument = [] → ended.status = .ended .syntaxError) ∧
        (argument ≠ [] → ended.status ≠ .executed →
          ended.status = .ended .overflow ∨ ended.status = .ended .failed ∧ overdue)) ∧
    (command.behavior = Builtin.status →
      ∃ sent,
        (∀ later packets,
          command.Sends allowed craft (interludes ++ later) packets ↔ packets = sent) ∧
        TellsTruth ended.status ⟨.telemetry, report⟩ sent ∧
        (queue.inRange = false → ended.status = .ended .failed) ∧
        (queue.inRange = true → ended.status ≠ .executed →
          ended.status = .ended .overflow ∨ ended.status = .ended .failed ∧ overdue)) := by
  intro now overdue argument report
  constructor
  · intro hbehavior
    have hstarts := Builtin.starts_echo command.context (craft.atEntry command.context)
    rw [← hbehavior] at hstarts
    obtain ⟨sent, hsends, hends⟩ :=
      exists_sends_of_returned hpending hstarts hlink allowed hkeeps hended
    by_cases hargument : argument = []
    · have hasked : Builtin.echoed command.context.argument = .error .syntaxError := if_pos hargument
      rw [hasked] at hends
      obtain ⟨hstatus, htruth⟩ := hends.tellsTruth_of_error ⟨.telemetry, argument⟩
      exact ⟨sent, hsends, htruth, fun _ => hstatus, fun hne => absurd hargument hne⟩
    · have hasked : Builtin.echoed command.context.argument = .ok argument := if_neg hargument
      rw [hasked] at hends
      obtain ⟨htruth, hstatus⟩ := hends.tellsTruth_of_ok
      exact ⟨sent, hsends, htruth, fun hnil => absurd hnil hargument, fun _ => hstatus⟩
  · intro hbehavior
    have hstarts := Builtin.starts_status command.context (craft.atEntry command.context)
    rw [← hbehavior, craft.readings_atEntry] at hstarts
    obtain ⟨sent, hsends, hends⟩ :=
      exists_sends_of_returned hpending hstarts hlink allowed hkeeps hended
    have hreads : craft.readings.inRange = queue.inRange := by
      show craft.link.inRange = queue.inRange
      rw [hlink]
      rfl
    cases hrange : queue.inRange with
    | false =>
      have hasked : Builtin.reported craft.readings = .error .failed := by
        rw [Builtin.reported, hreads, hrange]
        rfl
      rw [hasked] at hends
      obtain ⟨hstatus, htruth⟩ := hends.tellsTruth_of_error ⟨.telemetry, report⟩
      exact ⟨sent, hsends, htruth, fun _ => hstatus, nofun⟩
    | true =>
      have hasked : Builtin.reported craft.readings = .ok report := by
        rw [Builtin.reported, hreads, hrange]
        rfl
      rw [hasked] at hends
      obtain ⟨htruth, hstatus⟩ := hends.tellsTruth_of_ok
      exact ⟨sent, hsends, htruth, nofun, fun _ => hstatus⟩

/-- On a full queue, an echo waits until the consumer makes room, and is sent.  A report of the status waits
until its deadline, and is not sent, though the consumer may make room later. -/
theorem status_tells_what_was_sent_on_full_queue :
    let earlier : Packet := ⟨.telemetry, Bytes.ofString "earlier"⟩
    let queue : Link.Queue := { depth := 1, inRange := true, consumer := .taken, downlink := [earlier] }
    let craft : Spacecraft := { link := .queue queue }
    let receives : Interlude := fun craft =>
      match craft.link with
      | .queue queue => { craft with link := .queue queue.receive.2 }
      | .steady .. => craft
    let passes : Interlude := fun craft => { craft with now := craft.now + 5 }
    let echo : Command := {
      kind := 2, behavior := Builtin.echo, argument := .ofBytes (Bytes.ofString "hi") }
    let status : Command := { kind := 3, behavior := Builtin.status }
    (∀ later packets,
      echo.Sends none craft ([passes, receives] ++ later) packets ↔
        packets = [⟨.telemetry, Bytes.ofString "hi"⟩]) ∧
    (∀ later packets,
      status.Sends (some 5) craft ([passes] ++ later) packets ↔ packets = []) := by
  intro earlier queue craft receives passes echo status
  have hreceives : receives.KeepsQueue := by
    intro craft queue hlink
    exact ⟨queue.receive.2, by simp only [receives, hlink]⟩
  have hpasses : passes.KeepsQueue := fun craft queue hlink => ⟨queue, hlink⟩
  have hechoed : (echo.attempt none craft [passes, receives]).progress =
      .ready (.returned (echo.withStatus .executed)) := rfl
  have hreported : (status.attempt (some 5) craft [passes]).progress =
      .ready (.returned (status.withStatus (.ended .failed))) := rfl
  obtain ⟨sent, hsends, htruth, -, -⟩ :=
    (status_tells_what_was_sent rfl rfl none (by simp [hreceives, hpasses]) hechoed).1 rfl
  obtain ⟨sent', hsends', htruth', -, -⟩ :=
    (status_tells_what_was_sent rfl rfl (some 5) (by simp [hpasses]) hreported).2 rfl
  have hsent : sent = [⟨.telemetry, Bytes.ofString "hi"⟩] := htruth.executed_iff.1 rfl
  have hsent' : sent' = [] := htruth'.eq_nil nofun
  exact ⟨hsent ▸ hsends, hsent' ▸ hsends'⟩

end Command

end FlightScript
