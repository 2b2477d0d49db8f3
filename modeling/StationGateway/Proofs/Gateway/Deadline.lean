import StationGateway.Proofs.Config.Loading
import StationGateway.Proofs.Gateway.Opening
import StationGateway.Proofs.Gateway.Rejection

/-!
# The deadline of a connection

Whatever a connection reads moves its deadline, and does so before anything is made of the message. The clock
that deadlines are measured on ends, so that there are deadlines that cannot be computed, and a task that
cannot compute its deadline breaks down.

**The law** (`read_breaksDown_iff`): a task breaks down over a message exactly if the clock ends before the
deadline, and then nothing becomes of the message. Otherwise the message is answered and the deadline is moved.

The first deadline of a connection is taken to be never if it cannot be computed, as its timer is then set
for decades ahead; it is only the later ones that a task breaks down over. The check of the settings does not
keep it from that: it asks of the timeout only that it is positive, so that there are settings that pass it and
do not fit the clock, whichever reading but the earliest the clock has (`exists_overflow_iff`).
-/

namespace StationGateway

/-! ## Deadlines -/

namespace Idle

variable {clock next : Int64} {timeout : UInt64}

theorem deadline?_eq_none_iff :
    deadline? clock timeout = none ↔ Int64.maxValue.toInt < clock.toInt + timeout.toNat := by
  simp [deadline?]

/-- A deadline is the exact sum of the clock and the timeout. -/
theorem deadline?_eq_some_iff :
    deadline? clock timeout = some next ↔ next.toInt = clock.toInt + timeout.toNat := by
  unfold deadline?
  dsimp only
  split
  · next hwithin =>
    have hleast := Int64.le_toInt clock
    have hmax := Int64.toInt_maxValue
    rw [Option.some.injEq, ← Int64.toInt_inj, Int64.toInt_ofInt_of_le (by omega) (by omega)]
    exact eq_comm
  · next hover =>
    refine iff_of_false (fun hnone => nomatch hnone) fun hnext => ?_
    rw [← hnext] at hover
    exact hover (Int64.toInt_le next)

end Idle

/-! ## What the check of the settings asks of the timeout -/

namespace Config

variable {config : Config} {clock : Int64}

/-- The same settings with another time of silence after which a connection is closed. -/
def withIdleTimeout (c : Config) (timeout : UInt64) : Config :=
  { c with ocpp := { c.ocpp with idleTimeout := timeout } }

/-- All that is asked of the timeout is that it is positive. -/
theorem validate_withIdleTimeout_iff (hconfig : config.validate = .ok ()) (timeout : UInt64) :
    (config.withIdleTimeout timeout).validate = .ok () ↔ 0 < timeout := by
  rw [validate_eq_ok_iff] at hconfig ⊢
  simp only [constraints, List.forall_mem_cons] at hconfig ⊢
  obtain ⟨hpath, hparameter, hheartbeat, -, hrest⟩ := hconfig
  constructor
  · rintro ⟨-, -, -, hidle, -⟩
    exact hidle
  · intro hidle
    exact ⟨hpath, hparameter, hheartbeat, hidle, hrest⟩

/-- Settings that do not fit the clock pass the check at every reading of the clock but the earliest. -/
theorem exists_overflow_iff (hconfig : config.validate = .ok ()) :
    (∃ timeout, (config.withIdleTimeout timeout).validate = .ok () ∧
      Idle.deadline? clock timeout = none) ↔ clock ≠ Int64.minValue := by
  simp only [validate_withIdleTimeout_iff hconfig, Idle.deadline?_eq_none_iff, ← Int64.toInt_inj, ne_eq,
    Int64.toInt_maxValue, Int64.toInt_minValue]
  have hleast := Int64.le_toInt clock
  constructor
  · rintro ⟨timeout, -, hover⟩ hclock
    have htimeout := timeout.toNat_lt
    omega
  · intro hclock
    have hlargest : (18446744073709551615 : UInt64).toNat = 18446744073709551615 := rfl
    refine ⟨18446744073709551615, by decide, ?_⟩
    omega

end Config

/-! ## Reading -/

namespace Gateway

/-- What is left behind of a message that a task breaks down over. The task still takes out its session;
nothing is answered, and nobody is told. -/
structure BreaksDown (g g' : Gateway) (number : Nat) (s : Session.Handle) (events : List Event) : Prop where
  phase : g'.phase number = .removing s
  written : g'.written number = g.written number
  service : g'.service = g.service
  exchange : g'.exchange = g.exchange
  events : events = []

/-- What is left behind of a message that a task reads and, if need be, answers: the reply is written, and the
service goes on up to the moved deadline, unless the message ended it. -/
structure ReadsOn (g g' : Gateway) (m : Moment) (number : Nat) (s : Session.Handle) (message : Inbound)
    (seconds : Int) : Prop where
  written : texts (g'.written number) = texts (g.written number) ++ g.replyTo m s.chargePointId message
  phase : (∃ waiter next, g'.phase number = .serving waiter s (some next) ∧ next.toInt = seconds) ∨
    ∃ reason, g'.phase number = .leaving s reason ∧ g.replyTo m s.chargePointId message = []

section Reading

variable {g : Gateway} {m : Moment} {address : SocketAddress} {number : Nat} {t : Task}
  {waiter : Shutdown.Waiter} {s : Session.Handle} {deadline : Option Int64} {message : Inbound}
  {isWritten : Bool} {c : Passage} {bus : EventBus} {next : Int64}

/-- A task for whose deadline the clock is too short breaks down. -/
theorem Passes.breaksDown (ht : g.tasks[number]? = some t)
    (h : Passes g m address (.serving waiter s deadline) (.read message isWritten) c)
    (hnone : Idle.deadline? m.clock g.config.ocpp.idleTimeout = none) :
    BreaksDown g { g.pass number c with bus := bus } number s c.events := by
  cases h with
  | breakDown =>
    refine ⟨phase_pass_self ht _, ?_, rfl, rfl, rfl⟩
    exact (written_pass_self ht _).trans (List.append_nil _)
  | answer hsome | failToAnswer hsome | refuse hsome | failToRefuse hsome | echo hsome | leave hsome =>
    rw [hnone] at hsome
    cases hsome

/-- A task that has its deadline does not break down. -/
theorem Passes.not_breaksDown (ht : g.tasks[number]? = some t)
    (h : Passes g m address (.serving waiter s deadline) (.read message isWritten) c)
    (hsome : Idle.deadline? m.clock g.config.ocpp.idleTimeout = some next) :
    ¬ BreaksDown g { g.pass number c with bus := bus } number s c.events := by
  intro hbreaks
  have hphase : c.phase = .removing s := (phase_pass_self ht c).symm.trans hbreaks.phase
  cases h with
  | breakDown hnone =>
    rw [hnone] at hsome
    cases hsome
  | _ => cases hphase

/-- A task that has its deadline, and can write, answers what is to be answered. -/
theorem Passes.readsOn (ht : g.tasks[number]? = some t)
    (h : Passes g m address (.serving waiter s deadline) (.read message true) c)
    (hsome : Idle.deadline? m.clock g.config.ocpp.idleTimeout = some next) :
    ReadsOn g { g.pass number c with bus := bus } m number s message next.toInt := by
  have hphase : (g.pass number c).phase number = c.phase := phase_pass_self ht c
  have hwritten (texts' : List String) (hc : texts c.written = texts') :
      texts ((g.pass number c).written number) = texts (g.written number) ++ texts' := by
    rw [written_pass_self ht, ← hc]
    exact List.filterMap_append
  cases h with
  | breakDown hnone =>
    rw [hnone] at hsome
    cases hsome
  | answer hdeadline hdemand hrun =>
    obtain rfl := Option.some.inj (hdeadline.symm.trans hsome)
    refine ⟨hwritten _ ?_, .inl ⟨waiter, _, hphase, rfl⟩⟩
    rw [replyTo_of_answer hdemand, answerTo, hrun]
    rfl
  | refuse hdeadline hdemand =>
    obtain rfl := Option.some.inj (hdeadline.symm.trans hsome)
    refine ⟨hwritten _ ?_, .inl ⟨waiter, _, hphase, rfl⟩⟩
    rw [replyTo_of_refuse hdemand]
    rfl
  | echo hdeadline hdemand =>
    obtain rfl := Option.some.inj (hdeadline.symm.trans hsome)
    obtain ⟨hreply, htexts⟩ := replyTo_of_echo (g := g) (m := m) hdemand s.chargePointId
    refine ⟨hwritten _ ?_, .inl ⟨waiter, _, hphase, rfl⟩⟩
    rw [hreply]
    exact htexts
  | leave hdeadline hdemand =>
    obtain ⟨hreply, htexts⟩ := replyTo_of_leave (g := g) (m := m) hdemand s.chargePointId
    refine ⟨hwritten _ ?_, .inr ⟨_, hphase, hreply⟩⟩
    rw [hreply]
    exact htexts

end Reading

/-! ## What comes afterwards -/

section Afterwards

variable {g : Gateway} {m : Moment} {address : SocketAddress} {p : Phase} {own : Task.Move} {c : Passage}
  {number : Nat}

/-- What holds of a connection that nothing more comes from. -/
structure Silent (number : Nat) (written : List Outbound) (course : Course) : Prop where
  stage_ge : 8 ≤ (course.gateway.phase number).stage
  written_eq : course.gateway.written number = written
  published_eq : course.published number = []

/-- A task that takes out its session writes nothing and tells nobody. -/
theorem Passes.silent (h : Passes g m address p own c) (hstage : 8 ≤ p.stage) :
    c.written = [] ∧ c.events = [] := by
  cases h with
  | remove => exact ⟨rfl, rfl⟩
  | _ => exact absurd hstage (Nat.not_le_of_gt (Nat.le_of_ble_eq_true rfl))

theorem Silent.extend {course : Course} {written : List Outbound} {o : Occurrence} {g' : Gateway}
    {events : List Event} (h : Silent number written course) (hbrings : Brings course.gateway o g' events) :
    Silent number written ⟨g', course.entries ++ [⟨course.gateway, o, g', events⟩]⟩ := by
  have hpublished : Course.published ⟨g', course.entries ++ [⟨course.gateway, o, g', events⟩]⟩ number =
      (o.own? number).elim [] fun _ => events := by
    have hbefore := h.published_eq
    unfold Course.published at hbefore ⊢
    rw [List.flatMap_append, hbefore, List.nil_append, List.flatMap_singleton]
  cases hown : o.own? number with
  | none =>
    rw [hown] at hpublished
    refine ⟨?_, (hbrings.written_eq hown).trans h.written_eq, hpublished⟩
    rw [hbrings.phase_eq hown]
    exact h.stage_ge
  | some move =>
    obtain ⟨m, own⟩ := move
    rw [hown] at hpublished
    obtain ⟨t, c, bus, ht, hpasses, rfl, rfl⟩ := hbrings.passes hown
    have hstage : 8 ≤ t.phase.stage := by
      rw [← phase_of_task ht]
      exact h.stage_ge
    obtain ⟨hwritten, hevents⟩ := hpasses.silent hstage
    refine ⟨?_, ?_, hpublished.trans hevents⟩
    · have hphase : (course.gateway.pass number c).phase number = c.phase := phase_pass_self ht c
      have hbeyond : 8 ≤ c.phase.stage := Nat.le_trans hstage hpasses.stage_le
      rw [← hphase] at hbeyond
      exact hbeyond
    · have hsame := written_pass_self ht c
      rw [hwritten, List.append_nil] at hsame
      exact hsame.trans h.written_eq

/-- Nothing more comes from a connection whose task takes out its session. -/
theorem silent_of (hstage : 8 ≤ (g.phase number).stage) (occurrences : List Occurrence) :
    Silent number (g.written number) (Course.of g occurrences) :=
  Course.of_keeps (P := Silent number (g.written number)) ⟨hstage, rfl, rfl⟩
    (fun _ _ _ _ h hhappen => h.extend (brings_of_happen hhappen)) occurrences

theorem BreaksDown.silent {g' : Gateway} {s : Session.Handle} {events : List Event}
    (h : BreaksDown g g' number s events) (later : List Occurrence) :
    Silent number (g.written number) (Course.of g' later) := by
  rw [← h.written]
  apply silent_of
  rw [h.phase]
  exact Nat.le_refl 8

end Afterwards

/-! ## The law -/

section Law

variable {config : Config} {number : Nat} {t : Task} {waiter : Shutdown.Waiter} {s : Session.Handle}
  {deadline : Option Int64}

/-- **A connection breaks down over a message exactly if the clock ends before its new deadline.** Whatever
happened to a gateway with settings that passed their check, a connection that it serves can read any message
at any reading of the clock:

- it breaks down exactly if the seconds of the clock and of the timeout together are beyond the end of the
  clock, and then nothing becomes of the message, nor does anything more come from the connection, whatever
  happens later;
- otherwise the message is answered, if it can be written what the answer is, and the new deadline is the exact
  sum;
- and the check keeps no reading of the clock safe but the earliest: at each of the others, there are settings
  that pass it and the clock is too short for. -/
theorem read_breaksDown_iff (hconfig : config.validate = .ok ()) (occurrences : List Occurrence)
    (ht : (Course.of (new config) occurrences).gateway.tasks[number]? = some t)
    (hserving : t.phase = .serving waiter s deadline) (m : Moment) (message : Inbound) :
    let g := (Course.of (new config) occurrences).gateway
    let seconds := m.clock.toInt + config.ocpp.idleTimeout.toNat
    (∀ isWritten, ∃ g' events, g.step m (.task number (.read message isWritten)) = some (g', events) ∧
      (BreaksDown g g' number s events ↔ Int64.maxValue.toInt < seconds) ∧
      (Int64.maxValue.toInt < seconds → ∀ later, Silent number (g.written number) (Course.of g' later)) ∧
      (isWritten = true → seconds ≤ Int64.maxValue.toInt → ReadsOn g g' m number s message seconds)) ∧
    ((∃ timeout, (config.withIdleTimeout timeout).validate = .ok () ∧
      Idle.deadline? m.clock timeout = none) ↔ m.clock ≠ Int64.minValue) := by
  intro g seconds
  have hsettings : g.config = config := (opening_of config occurrences).config_eq
  refine ⟨fun isWritten => ?_, Config.exists_overflow_iff hconfig⟩
  obtain ⟨c, bus, hpasses, hstep⟩ := step_read ht hserving m message isWritten
  refine ⟨_, _, hstep, ?_⟩
  cases hdeadline : Idle.deadline? m.clock g.config.ocpp.idleTimeout with
  | none =>
    have hover : Int64.maxValue.toInt < seconds := by
      rw [hsettings] at hdeadline
      exact Idle.deadline?_eq_none_iff.mp hdeadline
    have hbreaks : BreaksDown g { g.pass number c with bus := bus } number s c.events :=
      hpasses.breaksDown ht hdeadline
    refine ⟨iff_of_true hbreaks hover, fun _ => hbreaks.silent, fun _ hwithin => ?_⟩
    exact absurd hover (Int.not_lt.mpr hwithin)
  | some next =>
    have hnext : next.toInt = seconds := by
      rw [hsettings] at hdeadline
      exact Idle.deadline?_eq_some_iff.mp hdeadline
    have hwithin : ¬ Int64.maxValue.toInt < seconds := by
      rw [← hnext]
      exact Int.not_lt.mpr (Int64.toInt_le next)
    have hgoesOn : ¬ BreaksDown g { g.pass number c with bus := bus } number s c.events :=
      hpasses.not_breaksDown ht hdeadline
    refine ⟨iff_of_false hgoesOn hwithin, fun hover => absurd hover hwithin, ?_⟩
    rintro rfl -
    rw [← hnext]
    exact hpasses.readsOn ht hdeadline

/-- The law at the default settings, by a heartbeat at the beginning of the clock and at its end. -/
theorem read_breaksDown_iff_heartbeat :
    let g := (Course.of (new {}) (gibberish.take 7)).gateway
    let heartbeat : Inbound := .text "[2,\"u1\",\"Heartbeat\",{}]"
    Config.validate {} = .ok () ∧
      ∃ t waiter deadline, g.tasks[0]? = some t ∧ t.phase = .serving waiter ⟨"CP-1", 1, 0⟩ deadline ∧
        (∃ g' events, g.step (.still .epoch 0 "") (.task 0 (.read heartbeat true)) = some (g', events) ∧
          ReadsOn g g' (.still .epoch 0 "") 0 ⟨"CP-1", 1, 0⟩ heartbeat 300) ∧
        ∃ g' events,
          g.step (.still .epoch Int64.maxValue "") (.task 0 (.read heartbeat true)) = some (g', events) ∧
            BreaksDown g g' 0 ⟨"CP-1", 1, 0⟩ events := by
  intro g heartbeat
  have hvalid : Config.validate {} = .ok () := by decide +kernel
  have hphase : g.tasks[0]?.map (·.phase) =
      some (.serving ⟨⟨0⟩, false⟩ ⟨"CP-1", 1, 0⟩ (some 300)) := by decide +kernel
  obtain ⟨t, ht, hserving⟩ := Option.map_eq_some_iff.1 hphase
  obtain ⟨hearly, -⟩ := read_breaksDown_iff hvalid _ ht hserving (.still .epoch 0 "") heartbeat
  obtain ⟨hlate, -⟩ := read_breaksDown_iff hvalid _ ht hserving (.still .epoch Int64.maxValue "") heartbeat
  obtain ⟨g', events, hstep, -, -, hreads⟩ := hearly true
  obtain ⟨g'', events', hstep', hbreaks, -⟩ := hlate true
  refine ⟨hvalid, t, _, _, ht, hserving, ⟨g', events, hstep, ?_⟩, g'', events', hstep', ?_⟩
  · exact hreads rfl (by decide)
  · exact hbreaks.mpr (by decide)

/-- A file with a timeout that is the last number of the clock. -/
def foreverFile : String :=
  "[ocpp]\nidle_timeout = 9223372036854775807\n"

/-- The settings of the file pass their check, and a second after the clock began no message is answered. -/
theorem foreverFile_unanswered :
    let config : Config := { ocpp := { idleTimeout := 9223372036854775807 } }
    let heartbeat : Inbound := .text "[2,\"u1\",\"Heartbeat\",{}]"
    let c := Course.of (new config)
      (gibberish.take 7 ++ [.step (.still .epoch 1 "") (.task 0 (.read heartbeat true))])
    Config.load "gateway.toml" (.content foreverFile.toUTF8) = .ok config ∧ config.validate = .ok () ∧
      Idle.deadline? 1 config.ocpp.idleTimeout = none ∧
      ((c.record 0).replies "CP-1").length = 1 ∧
      c.gateway.phase 0 = .removing ⟨"CP-1", 1, 0⟩ ∧ c.gateway.written 0 = [] := by
  intro config heartbeat c
  have hread : Toml.parse? foreverFile = some (.mapping
      [("ocpp", .mapping [("idle_timeout", .integer 9223372036854775807)])]) := by
    cbv
  have hbytes : String.fromUTF8? foreverFile.toUTF8 = some foreverFile := by decide +kernel
  have hload : Config.load "gateway.toml" (.content foreverFile.toUTF8) = .ok config := by
    rw [Config.load_content hbytes hread]
    decide +kernel
  refine ⟨hload, Config.validate_of_load hload, by decide, ?_⟩
  exact ⟨by decide +kernel, by decide +kernel, by decide +kernel⟩

end Law

end Gateway

end StationGateway
