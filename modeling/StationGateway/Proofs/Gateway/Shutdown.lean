import StationGateway.Proofs.Gateway.Orderly

/-!
# Shutting down

A gateway that shuts down stops listening, asks the registered sessions to close and waits for its tasks,
while connections that were accepted before are still being opened and may register sessions that nobody
asks to close.

**The law** (`shutdown_leaves_nothing`): a task that registers its session when the flag is up publishes
nothing and serves nothing, and its session is out of the registry when it ends; a task that serves a
connection when the shutdown is announced finds its waiter done; and when the gateway has returned all
tasks have ended and nothing is registered.

`TurnsAway` is what holds of a task of the first kind from the moment at which it registers its session.
That it was quiet before, too, follows from `stage_le_of_mem_trace`: it cannot have served a connection
and stand before its registration again.
-/

namespace StationGateway.Gateway

/-- Whether a step of a task serves a frame: reads one, or writes a text that is queued. -/
def Task.Move.ServesFrame : Task.Move → Prop
  | .forward _ | .read _ _ => True
  | _ => False

/-- Whether a task publishes nothing and serves no frame in the steps of a run. -/
def IsQuiet (steps : List Transition) (number : Nat) : Prop :=
  ∀ r ∈ steps, ∀ own, r.move = .task number own → r.events = [] ∧ ¬ own.ServesFrame

/-- Where a task with a session stands that is not served, now or later. -/
inductive Phase.Unserved (session : Session.Handle) : Phase → Prop
  | replacing (waiter : Shutdown.Waiter) (old : Option Session.Handle) :
      Unserved session (.replacing waiter session old)
  | registered (waiter : Shutdown.Waiter) : Unserved session (.registered waiter session)
  | removing : Unserved session (.removing session)
  | ended : Unserved session .ended

/-- Whether the flag is up and a task, which has registered a session, is on its way out. No other
session has the same outbox, so that it is not registered again. -/
structure TurnsAway (g : Gateway) (number : Nat) (session : Session.Handle) : Prop
    extends Orderly g where
  isTriggered : g.shutdown.isTriggered = true
  lt_size : session.outbox < g.exchange.outboxes.size
  stands : ∃ t, g.tasks[number]? = some t ∧ t.phase.Unserved session ∧
    (t.phase = .ended → g.exchange.registry.Within (· ≠ session))

variable {g g' : Gateway} {m : Moment} {move : Move} {events : List Event} {number : Nat}
  {session : Session.Handle} {moves : List (Moment × Move)}

/-! ## Tasks that are turned away -/

section Passing

variable {address : SocketAddress} {p : Phase} {own : Task.Move} {c : Passage}

/-- Before it has registered its session a task publishes nothing and serves nothing. -/
theorem Passes.quiet_of_stage_le (h : Passes g m address p own c) (hstage : c.phase.stage ≤ 3) :
    c.events = [] ∧ ¬ own.ServesFrame := by
  cases h with
  | serve | forward | failToForward | breakDown | answer | failToAnswer | refuse | failToRefuse
  | echo | leave | tellEnd => exact absurd hstage (Nat.not_le_of_gt (Nat.le_of_ble_eq_true rfl))
  | _ => exact ⟨rfl, id⟩

/-- When the flag is up, a task that is not served yet never is. -/
theorem Passes.unserved (h : Passes g m address p own c) (hup : g.shutdown.isTriggered = true)
    (hp : p.Unserved session) :
    c.phase.Unserved session ∧ c.events = [] ∧ ¬ own.ServesFrame ∧
      (c.phase = .ended → p.session? = some session) := by
  cases hp with
  | replacing =>
    cases h with
    | closeOld => exact ⟨.registered _, rfl, id, fun hended => nomatch hended⟩
  | registered =>
    cases h with
    | turnAway => exact ⟨.removing, rfl, id, fun hended => nomatch hended⟩
    | serve hdown =>
      rw [hup] at hdown
      cases hdown
  | removing =>
    cases h with
    | remove => exact ⟨.ended, rfl, id, fun _ => rfl⟩
  | ended => cases h

end Passing

section Away

variable {t : Task} {own : Task.Move} {c : Passage}

/-- A task that is turned away comes nearer to its end, in silence. -/
theorem TurnsAway.pass (hs : g.TurnsAway number session) (ht : g.tasks[number]? = some t)
    (h : Passes g m t.address t.phase own c) :
    (g.pass number c).TurnsAway number session ∧ c.events = [] ∧ ¬ own.ServesFrame := by
  obtain ⟨u, hu, hunserved, -⟩ := hs.stands
  obtain rfl := Option.some.inj (ht.symm.trans hu)
  obtain ⟨hnext, hevents, hserves, hsession⟩ := h.unserved hs.isTriggered hunserved
  refine ⟨?_, hevents, hserves⟩
  constructor
  case toOrderly => exact hs.toOrderly.pass ht h
  case isTriggered => exact hs.isTriggered
  case lt_size => exact Nat.lt_of_lt_of_le hs.lt_size h.size_le
  case stands =>
    refine ⟨_, getElem?_pass_self ht c, hnext, ?_⟩
    intro hended
    -- the task has just taken its session out
    have hnone : c.phase.session? = none := congrArg Phase.session? hended
    refine h.within hs.within (fun k _ hkeep heq => ?_) fun k hk _ => ?_
    · have hkept := hkeep (heq ▸ hsession hended)
      rw [hnone] at hkept
      cases hkept
    · rw [hnone] at hk
      cases hk

/-- A session that another task registers has an outbox of its own. -/
theorem TurnsAway.pass_of_ne {i : Nat} (hs : g.TurnsAway number session) (ht : g.tasks[i]? = some t)
    (hi : i ≠ number) (h : Passes g m t.address t.phase own c) :
    (g.pass i c).TurnsAway number session := by
  obtain ⟨u, hu, hunserved, hgone⟩ := hs.stands
  constructor
  case toOrderly => exact hs.toOrderly.pass ht h
  case isTriggered => exact hs.isTriggered
  case lt_size => exact Nat.lt_of_lt_of_le hs.lt_size h.size_le
  case stands =>
    refine ⟨u, (getElem?_pass_of_ne hi c).trans hu, hunserved, ?_⟩
    intro hended
    refine h.within (hgone hended) (fun k hk _ => hk) fun k _ hnew heq => ?_
    rw [heq] at hnew
    exact Nat.ne_of_lt hs.lt_size hnew

theorem TurnsAway.turn (hs : g.TurnsAway number session) (h : Turns g move g') :
    g'.TurnsAway number session := by
  obtain ⟨u, hu, hunserved, hgone⟩ := hs.stands
  constructor
  case toOrderly => exact hs.toOrderly.turn h
  case isTriggered => exact h.isTriggered hs.isTriggered
  case lt_size =>
    rw [h.size_eq]
    exact hs.lt_size
  case stands => exact ⟨u, h.getElem?_tasks hu, hunserved, fun hended => h.within (hgone hended)⟩

end Away

theorem TurnsAway.happens (hs : g.TurnsAway number session) (h : Happens g m move g' events) :
    g'.TurnsAway number session ∧
      ∀ own, move = .task number own → events = [] ∧ ¬ own.ServesFrame := by
  cases h with
  | @task i t own c ht hpasses =>
    by_cases hi : i = number
    · subst hi
      obtain ⟨haway, hquiet⟩ := hs.pass ht hpasses
      refine ⟨haway, ?_⟩
      intro own' hown
      cases hown
      exact hquiet
    · refine ⟨hs.pass_of_ne ht hi hpasses, ?_⟩
      intro own' hown
      cases hown
      exact (hi rfl).elim
  | turn hturns =>
    refine ⟨hs.turn hturns, ?_⟩
    intro own hown
    subst hown
    cases hturns

theorem TurnsAway.publish (hs : g.TurnsAway number session) (bus : EventBus) :
    { g with bus := bus }.TurnsAway number session :=
  ⟨hs.toOrderly.publish bus, hs.isTriggered, hs.lt_size, hs.stands⟩

/-- A task that is turned away is quiet for the rest of the run, and still turned away at its end. -/
theorem TurnsAway.run (hs : g.TurnsAway number session) (hrun : g.run moves = some (g', events)) :
    g'.TurnsAway number session ∧ IsQuiet (g.trace moves) number := by
  induction moves generalizing g events with
  | nil =>
    obtain ⟨rfl, -⟩ := Prod.mk.inj (Option.some.inj hrun)
    exact ⟨hs, fun r hr => nomatch hr⟩
  | cons head rest ih =>
    obtain ⟨next, first, later, hfirst, hrest, -⟩ := run_cons.1 hrun
    obtain ⟨done, bus, hhappens, rfl⟩ := happens_of_step hfirst
    obtain ⟨hdone, hquiet⟩ := hs.happens hhappens
    obtain ⟨hlast, hlater⟩ := ih (hdone.publish bus) hrest
    refine ⟨hlast, ?_⟩
    intro r hr own hown
    rw [trace_cons hfirst] at hr
    rcases List.mem_cons.1 hr with rfl | hr
    · exact hquiet own hown
    · exact hlater r hr own hown

/-- A task that registers its session when the flag is up is turned away. -/
theorem Orderly.insert (hs : g.Orderly) (hup : g.shutdown.isTriggered = true)
    (h : g.step m (.task number .insert) = some (g', events)) :
    events = [] ∧ ∃ t session, g'.tasks[number]? = some t ∧ t.phase.session? = some session ∧
      g'.TurnsAway number session := by
  obtain ⟨done, bus, hhappens, rfl⟩ := happens_of_step h
  cases hhappens with
  | @task _ t _ c ht hpasses =>
    have hdone := (hs.pass ht hpasses).publish bus
    obtain ⟨address, phase, written⟩ := t
    cases hpasses with
    | @insert waiter id connectionId session old x x' hconnect hinsert =>
      obtain ⟨hsession, -, -, hboxes⟩ := Exchange.insert_connect hconnect hinsert
      have hlt : session.toHandle.outbox < x'.outboxes.size := by
        rw [hsession, hboxes, Array.size_push]
        exact Nat.lt_succ_self _
      exact ⟨rfl, _, _, getElem?_pass_self ht _, rfl, hdone, hup, hlt, _, getElem?_pass_self ht _,
        .replacing _ _, fun hended => nomatch hended⟩
  | turn hturns => cases hturns

/-- A task that has a session to register has been quiet up to there. -/
theorem quiet_of_stage_le {own : Task.Move} (h : g.step m (.task number own) = some (g', events))
    (hstage : ∀ t, g'.tasks[number]? = some t → t.phase.stage ≤ 3) :
    events = [] ∧ ¬ own.ServesFrame := by
  obtain ⟨done, bus, hhappens, rfl⟩ := happens_of_step h
  cases hhappens with
  | task ht hpasses => exact hpasses.quiet_of_stage_le (hstage _ (getElem?_pass_self ht _))
  | turn hturns => cases hturns

theorem stage_of_insert {t : Task} (h : g.step m (.task number .insert) = some (g', events))
    (ht : g.tasks[number]? = some t) : t.phase.stage = 3 := by
  obtain ⟨done, bus, hhappens, -⟩ := happens_of_step h
  cases hhappens with
  | task hu hpasses =>
    obtain rfl := Option.some.inj (ht.symm.trans hu)
    obtain ⟨address, phase, written⟩ := t
    cases hpasses with
    | insert => rfl
  | turn hturns => cases hturns

/-- A task that registers its session when the flag is up is quiet for the whole run. -/
theorem Orderly.turnsAway (hs : g.Orderly) (hrun : g.run moves = some (g', events)) {s : Transition}
    (hmem : s ∈ g.trace moves) (hinsert : s.move = .task number .insert)
    (hup : s.before.shutdown.isTriggered = true) :
    IsQuiet (g.trace moves) number ∧
      ∃ t session, s.after.tasks[number]? = some t ∧ t.phase.session? = some session ∧
        g'.TurnsAway number session := by
  induction moves generalizing g events with
  | nil => cases hmem
  | cons head rest ih =>
    obtain ⟨m, move⟩ := head
    obtain ⟨next, first, later, hfirst, hrest, -⟩ := run_cons.1 hrun
    rw [trace_cons hfirst] at hmem ⊢
    rcases List.mem_cons.1 hmem with rfl | hlater
    -- the session is registered in the first step
    · obtain rfl : move = .task number .insert := hinsert
      obtain ⟨hevents, t, session, ht, hsession, haway⟩ := hs.insert hup hfirst
      obtain ⟨hlast, hquiet⟩ := haway.run hrest
      refine ⟨?_, t, session, ht, hsession, hlast⟩
      intro r hr own hown
      rcases List.mem_cons.1 hr with rfl | hr
      · cases hown
        exact ⟨hevents, id⟩
      · exact hquiet r hr own hown
    -- the session is registered later, so that the task still stands before that
    · obtain ⟨hquiet, hlast⟩ := ih (hs.step hfirst) hrest hlater
      refine ⟨?_, hlast⟩
      intro r hr own hown
      rcases List.mem_cons.1 hr with rfl | hr
      · obtain rfl : move = .task number own := hown
        refine quiet_of_stage_le hfirst fun t ht => ?_
        obtain ⟨t', ht', hle⟩ := stage_le_of_mem_trace hrest hlater ht
        have hstep := step_of_mem_trace hlater
        rw [hinsert] at hstep
        exact stage_of_insert hstep ht' ▸ hle
      · exact hquiet r hr own hown

/-! ## What a gateway that shuts down can do -/

section Possible

variable {t : Task}

theorem isSome_step {own : Task.Move} (ht : g.tasks[number]? = some t)
    (h : (g.stepTask m number t own).isSome) : (g.step m (.task number own)).isSome := by
  unfold step move
  dsimp only
  rw [ht, Option.isSome_map]
  exact h

/-- A task that is turned away goes on until it has ended. -/
theorem Phase.Unserved.isSome_step (ht : g.tasks[number]? = some t)
    (hphase : t.phase.Unserved session) (hgoes : t.phase ≠ .ended) :
    ∃ own, ∀ m, (g.step m (.task number own)).isSome := by
  obtain ⟨address, phase, written⟩ := t
  cases hphase with
  | replacing => exact ⟨.closeOld, fun m => Gateway.isSome_step ht rfl⟩
  | registered =>
    refine ⟨.beginService, fun m => Gateway.isSome_step ht ?_⟩
    unfold stepTask
    dsimp only
    split <;> rfl
  | removing => exact ⟨.remove, fun m => Gateway.isSome_step ht rfl⟩
  | ended => exact (hgoes rfl).elim

/-- A task that serves a connection when the shutdown is announced can end its service for it. -/
theorem Orderly.isSome_endService (hs : g.Orderly) (hup : g.shutdown.isTriggered = true)
    (hannounced : g.isAnnouncing = false) (ht : g.tasks[number]? = some t)
    {waiter : Shutdown.Waiter} {deadline : Option Int64}
    (hserving : t.phase = .serving waiter session deadline) :
    (g.shutdown.poll waiter).1 = true ∧
      ∀ m, (g.step m (.task number (.endService .shutdown))).isSome := by
  have hconsistent : g.shutdown.Consistent 0 := by
    have h := hs.consistent
    rw [hannounced] at h
    exact h
  have hheeds : waiter.Heeds g.shutdown := hs.heeds number t ht waiter (by rw [hserving]; rfl)
  have hdone := Shutdown.poll_of_isTriggered hconsistent hheeds hup
  refine ⟨hdone, fun m => isSome_step ht ?_⟩
  unfold stepTask
  dsimp only
  rw [hserving]
  dsimp only
  rw [if_pos (show g.mayEnd m waiter session deadline .shutdown = true from hdone)]
  rfl

end Possible

/-- **Shutting down leaves nothing registered.** In every run of a gateway:

- a task that registers its session when the flag is up publishes nothing and serves no frame, in the
  whole run; it is never among those that serve a connection, it goes on until it has ended, and then its
  session is not registered;
- a task that serves a connection, once the flag is up and the others were told, finds its waiter done,
  whenever it has subscribed, and can end its service for it;
- when the gateway has returned, all tasks have ended and no session is registered. -/
theorem shutdown_leaves_nothing {config : Config} (hrun : (new config).run moves = some (g, events)) :
    (∀ s ∈ (new config).trace moves, ∀ number, s.move = .task number .insert →
        s.before.shutdown.isTriggered = true →
          IsQuiet ((new config).trace moves) number ∧
          ∃ added session t, s.after.tasks[number]? = some added ∧
            added.phase.session? = some session ∧ g.tasks[number]? = some t ∧
            (∀ waiter session deadline, t.phase ≠ .serving waiter session deadline) ∧
            (t.phase ≠ .ended → ∃ own, ∀ m, (g.step m (.task number own)).isSome) ∧
            (t.phase = .ended →
              g.exchange.registry.lookup session.chargePointId ≠ some session)) ∧
      (g.shutdown.isTriggered = true → g.isAnnouncing = false →
        ∀ (i : Nat) t waiter session deadline, g.tasks[i]? = some t →
          t.phase = .serving waiter session deadline →
            (g.shutdown.poll waiter).1 = true ∧
              ∀ m, (g.step m (.task i (.endService .shutdown))).isSome) ∧
      (g.listener = .returned →
        (∀ t ∈ g.tasks, t.phase = .ended) ∧ g.exchange.registry.sessions = ∅) := by
  have hs := orderly_of_run hrun
  refine ⟨?_, ?_, ?_⟩
  · intro s hmem number hinsert hup
    obtain ⟨hquiet, added, session, hadded, hsession, haway⟩ :=
      (orderly_new config).turnsAway hrun hmem hinsert hup
    obtain ⟨t, ht, hunserved, hgone⟩ := haway.stands
    refine ⟨hquiet, added, session, t, hadded, hsession, ht, ?_, hunserved.isSome_step ht, ?_⟩
    · intro waiter session deadline hserving
      rw [hserving] at hunserved
      cases hunserved
    · intro hended hlookup
      exact (hgone hended _ _ hlookup).2 rfl
  · intro hup hannounced i t waiter session deadline ht hserving
    exact hs.isSome_endService hup hannounced ht hserving
  · intro hreturned
    have hended : ∀ t ∈ g.tasks, t.phase = .ended := by
      intro t ht
      have hend := Array.all_eq_true_iff_forall_mem.1 (hs.returned hreturned) t ht
      cases hp : t.phase with
      | ended => rfl
      | _ =>
        rw [hp] at hend
        cases hend
    refine ⟨hended, hs.within.sessions_eq_empty fun h ⟨i, t, ht, hsession⟩ => ?_⟩
    rw [hended t (Array.mem_of_getElem? ht)] at hsession
    cases hsession

/-- A connection that registers its session when the flag has just gone up. The listener takes the session
out and asks the connection to close before the task looks at the flag and turns away. -/
def lateConnection : List (Moment × Move) :=
  List.map (Prod.mk (.still .epoch 0 "")) [
    .accept (.v4 ⟨192, 0, 2, 1⟩ 5000),
    .task 0 .subscribe,
    .task 0 (.receiveRequest ⟨"/ws", some "id=CP-1"⟩ []),
    .task 0 .drawId,
    .raiseShutdown,
    .announceShutdown,
    .task 0 .insert,
    .stopListening,
    .listSessions ["CP-1"],
    .takeOutNext,
    .task 0 .closeOld,
    .closeTaken,
    .takeOutNext,
    .task 0 .beginService,
    .task 0 .remove,
    .finish]

/-- The gateway returns with nothing registered, and nobody hears of the connection. -/
theorem shutdown_leaves_nothing_lateConnection :
    ∃ g events, (new {}).run lateConnection = some (g, events) ∧ g.listener = .returned ∧
      g.exchange.registry.sessions = ∅ ∧
      ∀ r ∈ (new {}).trace lateConnection, ∀ own, r.move = .task 0 own → r.events = [] := by
  have hruns : ((new {}).run lateConnection).any (·.1.listener = .returned) := by decide +kernel
  have hlate : ((new {}).trace lateConnection).any fun s =>
      s.move matches .task 0 .insert && s.before.shutdown.isTriggered := by decide +kernel
  obtain ⟨⟨g, events⟩, hrun, hreturned⟩ := (Option.any_eq_true _ _).1 hruns
  obtain ⟨s, hs, hmatches⟩ := List.any_eq_true.1 hlate
  obtain ⟨hinsert, hup⟩ := Bool.and_eq_true_iff.1 hmatches
  have hmove : s.move = .task 0 .insert := by
    split at hinsert
    · assumption
    · cases hinsert
  have hreturned : g.listener = .returned := of_decide_eq_true hreturned
  obtain ⟨haway, -, hempty⟩ := shutdown_leaves_nothing hrun
  obtain ⟨hquiet, -⟩ := haway s hs 0 hmove hup
  exact ⟨g, events, hrun, hreturned, (hempty hreturned).2, fun r hr own hown => (hquiet r hr own hown).1⟩

end StationGateway.Gateway
