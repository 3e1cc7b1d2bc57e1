import FlightScript.Proofs.Daemon.Bookkeeping
import FlightScript.Proofs.Daemon.Loop
import Mathlib.Data.List.Forall2
/-!
# A cancellation loses nothing

A cancellation may come while the daemon waits for a script, while a command runs, or during a pause,
and it may find a packet there at the same moment.  Whatever comes first, a packet that was taken is
handled to its end, and what was not taken is still queued.

How many packets a daemon takes after it was cancelled is a matter of where it stands
(`Phase.budget`).  It may take one more, if it has none in hand.  A step never lets what was taken and
what may still be taken grow (`World.Winds.step`), since behind a script that daemon stops: it looks at
its pause as soon as that begins, and the pause is not over then.  That is the first half of
`cancellation_loses_nothing`.  The other half is read off the calls that the run is made of
(`World.Follows`), which have all had their end when the daemon has stopped.
-/

namespace FlightScript.Daemon

/-! ## What a cancelled daemon may still take -/

/-- How many packets a daemon that was cancelled may still take. -/
def Phase.budget : Phase → Nat
  | starting => 1
  | idle => 1
  | reading _ => 1
  | pausing _ => 1
  | running _ => 0
  | stopped => 0
  | crashed => 0

instance (phase : Phase) : Decidable (phase = .stopped) :=
  match phase with
  | .stopped => .isTrue rfl
  | .starting => .isFalse nofun
  | .idle => .isFalse nofun
  | .reading _ => .isFalse nofun
  | .running _ => .isFalse nofun
  | .pausing _ => .isFalse nofun
  | .crashed => .isFalse nofun

lemma Phase.budget_le_one (phase : Phase) : phase.budget ≤ 1 := by
  cases phase <;> simp [budget]

/-- Between two scripts it may take one, unless it has stopped. -/
lemma Phase.budget_of_isOpen {phase : Phase} (hopen : phase.IsOpen) (hphase : phase ≠ .stopped) :
    phase.budget = 1 := by
  cases phase with
  | running run => exact hopen.elim
  | crashed => exact hopen.elim
  | stopped => exact absurd rfl hphase
  | _ => rfl

/-- Behind a turn of a script it takes none any more. -/
lemma Task.Suits.budget_eq {cancelled : Bool} {pause : Nat}
    {progress : Progress Script.Interpretation Handled} {phase : Phase}
    (h : Suits cancelled pause progress phase) (hcancelled : cancelled = true) (hpause : 0 < pause) :
    phase.budget = 0 := by
  cases progress with
  | ready handled =>
    cases handled with
    | done outcome =>
      rw [h.2 hcancelled hpause]
      rfl
    | crashed =>
      rw [show phase = .crashed from h]
      rfl
  | waiting run =>
    rw [show phase = .running run from h]
    rfl

/-- A turn of a script leaves the settings as they are. -/
lemma settings_handleScript (daemon : Daemon) (script : Bytes) (craft : Spacecraft) :
    (daemon.handleScript script craft).2.1.settings = daemon.settings :=
  (handles_handling daemon script craft []).setup.2

lemma settings_resume (daemon : Daemon) (run : Script.Interpretation) (craft : Spacecraft) :
    (daemon.resume run craft).2.1.settings = daemon.settings := by
  unfold resume settle
  split <;> rfl

namespace World

variable {world : World} {taken packets : List Bytes}

/-- The packets of the world are accounted for, and its daemon was cancelled and is set to pause behind
a script. -/
structure Winds (taken packets : List Bytes) (world : World) : Prop extends
    Accounts taken packets world where
  cancelled : world.task.cancelled = true
  pause : 0 < world.task.daemon.settings.pause

/-- Behind a turn of a script, a daemon that winds up takes nothing any more. -/
lemma winds_look_settle {turn : Progress Script.Interpretation Handled × Daemon × Spacecraft}
    (hcancelled : world.task.cancelled = true) (hpause : 0 < turn.2.1.settings.pause)
    (haccepted : world.accepted = taken ++ packets)
    (huplink : turn.2.2.link.uplink? = some (packets, [])) (look₂ : Bool) :
    let settled := Task.look look₂ (world.task.settle turn)
    Winds taken packets { world with task := settled.1, craft := settled.2 } ∧
      settled.1.phase.budget = 0 := by
  obtain ⟨phase, craft', hlook, hsuits, -, haccounts⟩ :=
    Accounts.exists_look_settle haccepted huplink look₂
  simp only [hlook]
  exact ⟨⟨haccounts, hcancelled, hpause⟩, hsuits.budget_eq hcancelled hpause⟩

/-- **What was taken and what may still be taken do not grow** by an advance. -/
lemma Winds.of_advances (h : world.Winds taken packets) {look₂ : Bool} {turn : Task × Spacecraft}
    (hadvances : Task.Advances look₂ world.task world.craft packets turn) :
    ∃ taken' packets', Winds taken' packets' { world with task := turn.1, craft := turn.2 } ∧
      taken'.length + turn.1.phase.budget ≤ taken.length + world.task.phase.budget := by
  cases hadvances with
  | idles hopen _ hidles =>
    obtain ⟨phase, craft', rfl, -, hreceives, hstopped, -, huplink⟩ := hidles
    refine ⟨taken, packets, ⟨⟨h.accepted, huplink, hreceives⟩, h.cancelled, h.pause⟩, ?_⟩
    show taken.length + phase.budget ≤ taken.length + world.task.phase.budget
    by_cases hphase : world.task.phase = .stopped
    · have hsame : phase = world.task.phase := (hstopped hphase).trans hphase.symm
      exact Nat.le_of_eq (congrArg (taken.length + ·.budget) hsame)
    · rw [Phase.budget_of_isOpen hopen hphase]
      exact Nat.add_le_add_left phase.budget_le_one _
  | @takes packet rest craft' hopen hphase hpackets _ huplink =>
    subst hpackets
    have hpause : 0 < (world.task.daemon.handleScript packet craft').2.1.settings.pause := by
      rw [settings_handleScript]
      exact h.pause
    obtain ⟨hwinds, hbudget⟩ := winds_look_settle h.cancelled hpause h.accepted_cons huplink look₂
    refine ⟨taken ++ [packet], rest, hwinds, ?_⟩
    rw [hbudget, Phase.budget_of_isOpen hopen hphase]
    exact Nat.le_of_eq List.length_append
  | @resumes run _ huplink =>
    have hpause : 0 < (world.task.daemon.resume run world.craft).2.1.settings.pause := by
      rw [settings_resume]
      exact h.pause
    obtain ⟨hwinds, hbudget⟩ := winds_look_settle h.cancelled hpause h.accepted huplink look₂
    refine ⟨taken, packets, hwinds, ?_⟩
    rw [hbudget]
    omega
  | crashed => exact ⟨taken, packets, h, Nat.le_refl _⟩

/-- Nor do they by anything else. -/
lemma Winds.step (h : world.Winds taken packets) (event : Event)
    (hleaves : ∀ interlude, event = .meanwhile interlude → interlude.LeavesUplink) :
    ∃ taken' packets', (world.step event).Winds taken' packets' ∧
      taken'.length + (world.step event).task.phase.budget ≤
        taken.length + world.task.phase.budget := by
  cases event with
  | insert packet =>
    obtain ⟨packets', haccounts, -⟩ := h.insert packet
    exact ⟨taken, packets', ⟨haccounts, h.cancelled, h.pause⟩, Nat.le_refl _⟩
  | meanwhile interlude =>
    have haccounts := h.meanwhile (hleaves interlude rfl)
    exact ⟨taken, packets, ⟨haccounts, h.cancelled, h.pause⟩, Nat.le_refl _⟩
  | cancel => exact ⟨taken, packets, ⟨h.toAccounts.cancel, rfl, h.pause⟩, Nat.le_refl _⟩
  | advance first second => exact h.of_advances (Task.advances h.receives h.uplink first second)

/-- **A daemon that winds up takes no more packets than it may.** -/
lemma Winds.run (h : world.Winds taken packets) (events : List Event)
    (hleaves : ∀ interlude, .meanwhile interlude ∈ events → interlude.LeavesUplink) :
    (world.run events).taken.length ≤ taken.length + world.task.phase.budget := by
  induction events generalizing world taken packets with
  | nil =>
    have htaken : (world.run []).taken = taken := h.taken_eq
    rw [htaken]
    omega
  | cons event events ih =>
    obtain ⟨taken', packets', hwinds, hbudget⟩ :=
      h.step event fun interlude heq => hleaves interlude (heq ▸ List.mem_cons_self)
    have hrest := ih hwinds fun interlude hmem => hleaves interlude (List.mem_cons_of_mem event hmem)
    exact Nat.le_trans hrest hbudget

/-- **A cancellation leaves room for one more packet**, wherever it finds the daemon. -/
lemma Follows.taken_of_cancel {fresh : Session} {happenings : List Interlude}
    (h : world.Follows fresh happenings) (hpause : 0 < fresh.daemon.settings.pause)
    (events : List Event)
    (hleaves : ∀ interlude, .meanwhile interlude ∈ events → interlude.LeavesUplink) :
    ((world.step .cancel).run events).taken.length ≤ world.taken.length + 1 := by
  obtain ⟨taken, packets, haccounts, hmatches⟩ := h
  have hwinds : (world.step .cancel).Winds taken packets := by
    refine ⟨haccounts.cancel, rfl, ?_⟩
    show 0 < world.task.daemon.settings.pause
    rw [hmatches.settings_eq]
    exact hpause
  calc
    ((world.step .cancel).run events).taken.length ≤
        taken.length + (world.step .cancel).task.phase.budget := hwinds.run events hleaves
    _ ≤ taken.length + 1 := Nat.add_le_add_left (Phase.budget_le_one _) _
    _ = world.taken.length + 1 := by rw [haccounts.taken_eq]

end World

/-! ## What has become of the packets that were taken -/

/-- What an outcome says about its script: there was none, or it was dropped, or its command has come to
a status that is final. -/
def Outcome.Answers (script : Bytes) : Outcome → Prop
  | .empty => script = []
  | .dropped _ => script ≠ []
  | .executed _ _ status => script ≠ [] ∧ status.IsTerminal

/-- A call that has come to its end has an outcome that answers its script. -/
lemma Handles.exists_outcome {daemon : Daemon} {script : Bytes} {craft : Spacecraft}
    {interludes : List Interlude} {handling : Handling}
    (h : Handles daemon script craft interludes handling) (hended : handling.outcome?.isNone = false) :
    ∃ outcome, handling.outcome? = some outcome ∧ outcome.Answers script := by
  cases h with
  | empty hscript => exact ⟨_, rfl, hscript⟩
  | dropped hscript e => exact ⟨_, rfl, hscript⟩
  | executed hscript command left ending =>
    refine ⟨_, rfl, hscript, ?_⟩
    cases ending <;> exact ⟨nofun, nofun⟩
  | unfinished _ _ _ _ hprogress =>
    rw [Handling.outcome?_eq_none hprogress] at hended
    cases hended

/-- Where every call has come to its end, every script has its answer. -/
lemma Session.answers_run {calls : List Call} {daemon : Daemon} {craft : Spacecraft}
    (hended : (run { daemon, craft } calls).abandoned = 0) :
    List.Forall₂ Outcome.Answers (calls.map Call.script) (run { daemon, craft } calls).outcomes := by
  induction calls using List.reverseRecOn with
  | nil => exact .nil
  | append_singleton calls call ih =>
    rw [run_concat, call_eq, abandoned_after] at hended
    have hearlier : (run { daemon, craft } calls).abandoned = 0 := by omega
    have hlast : ((run { daemon, craft } calls).handlingOf call).outcome?.isNone = false := by
      by_contra hnone
      rw [if_pos (by simpa using hnone)] at hended
      omega
    obtain ⟨outcome, houtcome, hanswers⟩ :=
      (handles_handlingOf (run { daemon, craft } calls) call).exists_outcome hlast
    rw [run_concat, call_eq, outcomes_after, List.map_append, houtcome]
    exact List.rel_append (ih hearlier) (.cons hanswers .nil)

/-! ## Runs in which the daemon stops -/

/-- **A cancellation loses nothing.**  Let a new daemon be set to pause behind a script, and let packets
be put into the uplink, let it be cancelled, and let anything else happen that leaves the uplink alone,
at any times and with any choice where the daemon has one.

After any cancellation in the run it has taken at most one more packet.  If it has stopped in the end, all
that it has ever taken was handled: every packet but an empty one is counted as received and as either
executed or dropped; the command of one that was executed has come to a status that is final; and the
audit log, if nobody else writes to it, has been told the start and the end of each of these commands,
in order, and nothing else.  The packets that were accepted are those that were taken and, behind them
and in order, those that are still queued. -/
theorem cancellation_loses_nothing (registry : Registry) (settings : Settings) (craft : Spacecraft)
    (queue : Link.Queue) (events : List Event) (hpause : 0 < settings.pause)
    (hlink : craft.link = .queue queue) (hreaders : queue.readers = [])
    (hleaves : ∀ interlude, .meanwhile interlude ∈ events → interlude.LeavesUplink) :
    let start := World.start registry settings craft
    let world := start.run events
    let stats := world.task.daemon.stats
    (∀ before after, events = before ++ .cancel :: after →
      world.taken.length ≤ (start.run before).taken.length + 1) ∧
    (world.task.phase = .stopped →
      ∃ outcomes : List Outcome, List.Forall₂ Outcome.Answers world.taken outcomes ∧
        stats.received = world.taken.countP (· ≠ []) ∧
        stats.executed = outcomes.countP Outcome.isExecuted ∧
        stats.dropped = outcomes.countP Outcome.isDropped ∧
        stats.received = stats.executed + stats.dropped ∧
        ((∀ interlude, .meanwhile interlude ∈ events → interlude.LeavesAudit) →
          craft.Audits world.craft (outcomes.flatMap Outcome.entries))) ∧
    world.accepted = world.taken ++ world.craft.link.queued := by
  intro start world stats
  have huplink : craft.link.uplink? = some (queue.uplink, []) := by
    rw [hlink, ← hreaders]
    rfl
  have hfollows : ∀ events : List Event,
      (∀ interlude, .meanwhile interlude ∈ events → interlude.LeavesUplink) →
      (start.run events).Follows { daemon := { registry, settings }, craft }
        (events.filterMap Event.happening?) :=
    World.follows_run (World.follows_start registry settings huplink)
  obtain ⟨taken, packets, haccounts, hmatches⟩ := hfollows events hleaves
  have htaken : world.taken = taken := haccounts.taken_eq
  refine ⟨?budget, ?handled, ?queued⟩
  case budget =>
    intro before after hsplit
    have hbefore : ∀ interlude, .meanwhile interlude ∈ before → interlude.LeavesUplink :=
      fun interlude hmem => hleaves interlude (hsplit ▸ List.mem_append_left _ hmem)
    have hafter : ∀ interlude, .meanwhile interlude ∈ after → interlude.LeavesUplink :=
      fun interlude hmem => hleaves interlude
        (hsplit ▸ List.mem_append_right _ (List.mem_cons_of_mem _ hmem))
    have hworld : world = ((start.run before).step .cancel).run after := by
      show start.run events = _
      rw [hsplit, World.run, List.foldl_append]
      rfl
    rw [hworld]
    exact (hfollows before hbefore).taken_of_cancel hpause after hafter
  case handled =>
    intro hstopped
    have hopen : world.task.phase.IsOpen := by
      rw [hstopped]
      trivial
    obtain ⟨calls, gap, haccompanies, hscripts, habandoned, hdaemon, hcraft⟩ :=
      hmatches.exists_calls hopen
    have hbooks := (Books.fresh registry settings craft).run calls
    rw [List.nil_append] at hbooks
    have hstats : stats = (Session.run { daemon := { registry, settings }, craft } calls).daemon.stats :=
      congrArg Daemon.stats hdaemon.symm
    refine ⟨_, htaken ▸ hscripts ▸ Session.answers_run habandoned, ?_, ?_, ?_, ?_, ?_⟩
    · rw [hstats, hbooks.received, htaken, ← hscripts, List.countP_map]
      rfl
    · rw [hstats, hbooks.executed]
    · rw [hstats, hbooks.dropped]
    · rw [hstats, hbooks.balance, habandoned]
      rfl
    · intro haudit
      have hhappenings : ∀ interlude ∈ events.filterMap Event.happening?, interlude.LeavesAudit :=
        fun interlude hmem => haudit interlude (Event.mem_of_happening? hmem)
      obtain ⟨hcalls, hgap⟩ : (∀ call ∈ calls, call.LeavesAudit) ∧ gap.LeavesAudit :=
        haccompanies.forall (fun _ h => h.leavesAudit) (fun _ _ h h' => h.comp h') hhappenings
      have haudits := Session.audits_of_abandoned hcalls habandoned
      refine haudits.congr rfl ?_
      rw [← hcraft]
      exact hgap _
  case queued =>
    rw [htaken, Link.queued_of_uplink? haccounts.uplink]
    exact haccounts.accepted

/-- A daemon is cancelled at the very moment its pause behind the first of three scripts is over, and goes
on.  It takes the second, lets its command finish, and stops.  Both commands are on record, and the third
script is still queued. -/
theorem cancellation_at_end_of_pause :
    let sleep : Command := {
      kind := 9
      behavior := {
        start := fun _ => .pause 10 (.finish (.completed "awake"))
        copying := .always } }
    let registry : Registry := { prototypes := [(Bytes.ofString "sleep", sleep)] }
    let queue : Link.Queue := { depth := 3 }
    let craft : Spacecraft := { link := .queue queue, audit := .fresh }
    let script := Bytes.ofString "INVOKE(\"sleep\");"
    let clock (now : Nat) : Interlude := fun craft => { craft with now }
    let go : Event := .advance false false
    let before : List Event := [go, go, .insert script, .insert script, .insert script, go,
      .meanwhile (clock 10), go, .meanwhile (clock 110)]
    let after : List Event := [go, go, .meanwhile (clock 120), go]
    let start := World.start registry {} craft
    let world := start.run (before ++ .cancel :: after)
    (start.run before).taken = [script] ∧ world.taken = [script, script] ∧
      world.taken.length ≤ (start.run before).taken.length + 1 ∧
      world.accepted = world.taken ++ [script] ∧ world.task.phase = .stopped ∧
      world.task.daemon.stats = ⟨2, 2, 0⟩ ∧
      ∃ outcomes : List Outcome, List.Forall₂ Outcome.Answers world.taken outcomes ∧
        outcomes.countP Outcome.isExecuted = 2 ∧
        craft.Audits world.craft (outcomes.flatMap Outcome.entries) := by
  intro sleep registry queue craft script clock go before after start world
  have hmeanwhile : ∀ interlude, .meanwhile interlude ∈ before ++ .cancel :: after →
      ∃ now, interlude = clock now := by
    intro interlude hmem
    simp [before, after, go] at hmem
    rcases hmem with rfl | rfl | rfl <;> exact ⟨_, rfl⟩
  have hleaves : ∀ interlude, .meanwhile interlude ∈ before ++ .cancel :: after →
      interlude.LeavesUplink := by
    intro interlude hmem
    obtain ⟨now, rfl⟩ := hmeanwhile interlude hmem
    exact fun craft => rfl
  have haudit : ∀ interlude, .meanwhile interlude ∈ before ++ .cancel :: after →
      interlude.LeavesAudit := by
    intro interlude hmem
    obtain ⟨now, rfl⟩ := hmeanwhile interlude hmem
    exact fun craft => rfl
  have hfirst : (start.run before).taken = [script] := by decide +kernel
  have htaken : world.taken = [script, script] := by decide +kernel
  have haccepted : world.accepted = world.taken ++ [script] := by decide +kernel
  have hstopped : world.task.phase = .stopped := by decide +kernel
  have hstats : world.task.daemon.stats = ⟨2, 2, 0⟩ := by decide +kernel
  have hstart : World.start registry {} craft = start := rfl
  have hworld : start.run (before ++ .cancel :: after) = world := rfl
  have hnothing := cancellation_loses_nothing registry {} craft queue (before ++ .cancel :: after)
    (by decide) rfl rfl hleaves
  simp only [hstart, hworld] at hnothing
  clear_value world
  obtain ⟨hbudget, hhandled, -⟩ := hnothing
  obtain ⟨outcomes, hanswers, -, hexecuted, -, -, haudits⟩ := hhandled hstopped
  refine ⟨hfirst, htaken, hbudget before after rfl, haccepted, hstopped, hstats, outcomes, hanswers, ?_,
    haudits haudit⟩
  rw [← hexecuted, hstats]

end FlightScript.Daemon
