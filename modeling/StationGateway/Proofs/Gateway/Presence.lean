import StationGateway.Proofs.Gateway.Rejection

/-!
# What a connection tells of itself

A connection that is served publishes that it has begun, then what its frames come to, and at last that it
has ended. `Told` says where it stands in this, `Tells` what one step adds, and `Course.tells_of` that it
holds on every course in which no task is broken off: a task that is aborted, or that breaks down, goes
without telling of it.

Everything here is about one task and what it has published. That the ids which it gives are its own alone
is another matter.
-/

namespace StationGateway

/-- Whether an event tells that a connection has begun or ended. -/
def Event.isPresence : Event → Bool
  | .connected _ | .disconnected _ => true
  | .booted _ | .heartbeatReceived _ | .statusChanged _ | .callRejected _ => false

namespace Dispatcher

/-- What a text comes to is no beginning and no end of a connection. -/
theorem isPresence_handleText (interval : UInt32) (id : String) (now : Timestamp) (text : String)
    (service : Service) (readings : Readings) :
    ∀ e ∈ (((standard interval).handleText id now text).run ⟨service, [], [], readings⟩).2.events,
      e.isPresence = false := by
  rw [handleText_run]
  intro e he
  obtain ⟨outcome, hends⟩ := ends_answer interval id now text ⟨service, [], [], readings⟩
  cases hends with
  | @success _ _ _ t _ _ _ _ _ told _ htask _ _ hreport _ _ _ hevents =>
    rw [hevents] at he
    obtain rfl := List.mem_singleton.1 he
    have hsilent : (t.report.run told).1.1.isPresence = false := by
      obtain ⟨r, -, -, rfl⟩ | ⟨r, -, -, rfl⟩ | ⟨r, -, -, rfl⟩ := task?_cases interval id htask <;> rfl
    rw [hreport] at hsilent
    exact hsilent
  | serviceFailure _ _ _ _ _ _ _ hevents =>
    rw [hevents] at he
    obtain rfl := List.mem_singleton.1 he
    rfl
  | rejection _ _ _ _ hevents =>
    rw [hevents] at he
    obtain rfl := List.mem_singleton.1 he
    rfl

end Dispatcher

namespace Gateway

/-! ## What there is to know -/

/-- The session that a task serves, or has served and not told the end of. -/
def Phase.served? : Phase → Option Session.Handle
  | .accepted | .opening _ | .identified _ _ | .numbered _ _ _ | .replacing _ _ _ | .registered _ _
  | .removing _ | .ended => none
  | .serving _ session _ | .leaving session _ => some session

/-- The connection id of a task that has drawn one, until it has ended. -/
def Phase.connectionId? : Phase → Option UInt64
  | .accepted | .opening _ | .identified _ _ | .ended => none
  | .numbered _ _ connectionId => some connectionId
  | .replacing _ s _ | .registered _ s | .serving _ s _ | .leaving s _ | .removing s =>
    some s.connectionId

/-- Of the events of a step, those that a frame has caused. -/
def Task.Move.answered (events : List Event) : Task.Move → List Event
  | .read _ _ => events
  | _ => []

/-- The connection id that a step of a task draws, if it draws one. -/
def Task.Move.connectionIds (g : Gateway) : Task.Move → List UInt64
  | .drawId => [g.exchange.registry.nextId]
  | _ => []

/-- Whether a connection is turned away in a step: its opening is refused or fails, or it finds the flag of
the shutdown up. -/
def Task.Move.turnsAway (g : Gateway) : Task.Move → Bool
  | .receiveRequest uri protocols =>
    !(Handshake.accept uri protocols [] g.config.server.path g.config.server.identityParameter).isOk
  | .failToOpen => true
  | .beginService => g.shutdown.isTriggered
  | _ => false

/-- Whether a task is broken off in a step: it is aborted or breaks down. -/
def Task.Move.breaksOff (g : Gateway) (m : Moment) : Task.Move → Bool
  | .abort => true
  | .read _ _ => !g.answers m
  | _ => false

/-- Whether a task is broken off in a step. -/
def Move.breaksOff (g : Gateway) (m : Moment) : Move → Bool
  | .task _ own => own.breaksOff g m
  | .accept _ | .collectTask | .wait | .stopListening | .listSessions _ | .takeOutNext | .closeTaken
  | .waitNoLonger | .finish | .raiseShutdown | .announceShutdown | .send _ _ | .requestClose _ => false

/-- Whether a task is broken off by an occurrence. -/
def Occurrence.breaksOff (g : Gateway) : Occurrence → Bool
  | .step m move => move.breaksOff g m
  | .send _ _ | .requestClose _ | .fault _ => false

/-- What a connection has told: for whom it was opened, the connection ids that it has drawn, what it has
published, what of that its frames have caused, and whether it was turned away. -/
structure History where
  identities : List String
  connectionIds : List UInt64
  published : List Event
  answered : List Event
  isTurnedAway : Bool

namespace Course

variable (c : Course)

/-- What the connection with a number has told. -/
def history (number : Nat) : History where
  identities := (c.record number).identities
  connectionIds := c.entries.flatMap fun e =>
    (e.occurrence.own? number).elim [] fun (_, own) => own.connectionIds e.before
  published := c.published number
  answered := c.entries.flatMap fun e =>
    (e.occurrence.own? number).elim [] fun (_, own) => own.answered e.events
  isTurnedAway := c.entries.any fun e =>
    (e.occurrence.own? number).any fun (_, own) => own.turnsAway e.before

/-- Whether no task was broken off. -/
def IsWhole : Prop :=
  ∀ e ∈ c.entries, e.occurrence.breaksOff e.before = false

end Course

/-- What a step of a task adds to what it has told. -/
def History.extend (r : History) (g : Gateway) (own : Task.Move) (c : Passage) : History where
  identities := r.identities ++ own.identities g
  connectionIds := r.connectionIds ++ own.connectionIds g
  published := r.published ++ c.events
  answered := r.answered ++ own.answered c.events
  isTurnedAway := r.isTurnedAway || own.turnsAway g

/-- How far a connection has told its story: nothing, or that it has begun and what came of its frames, or
also that it has ended. It tells the identity for which it was opened, and the connection id that it has
drawn. -/
inductive Told (p : Phase) (r : History) : Prop
  | nothing (hphase : p.served? = none) (hpublished : r.published = []) (hanswered : r.answered = [])
  | begun {s : Session.Handle} {a : Event.Connected} (hphase : p.served? = some s)
      (hsession : a.chargePointId = s.chargePointId ∧ a.connectionId = s.connectionId)
      (hown : a.chargePointId ∈ r.identities ∧ a.connectionId ∈ r.connectionIds)
      (hpublished : r.published = .connected a :: r.answered)
  | ended {a : Event.Connected} {b : Event.Disconnected} (hphase : 8 ≤ p.stage)
      (hsame : b.chargePointId = a.chargePointId ∧ b.connectionId = a.connectionId)
      (hown : a.chargePointId ∈ r.identities ∧ a.connectionId ∈ r.connectionIds)
      (hpublished : r.published = .connected a :: (r.answered ++ [.disconnected b]))

/-- What holds of what a task at a phase has told. -/
structure Reported (p : Phase) (r : History) : Prop where
  identity : ∀ id, p.chargePointId? = some id → id ∈ r.identities
  connectionId : ∀ n, p.connectionId? = some n → n ∈ r.connectionIds
  told : Told p r
  answered : ∀ e ∈ r.answered, e.isPresence = false
  turnedAway : r.isTurnedAway = true → 8 ≤ p.stage ∧ r.published = []

/-! ## What one step tells -/

/-- What a step of a task tells. -/
inductive Tells (p : Phase) (own : Task.Move) (c : Passage) : Prop
  | nothing (hbefore : p.served? = none) (hafter : c.phase.served? = none) (hevents : c.events = [])
  | opens {s : Session.Handle} {a : Event.Connected} (hbefore : p.stage = 5)
      (hsession : p.session? = some s) (hafter : c.phase.served? = some s)
      (hsame : a.chargePointId = s.chargePointId ∧ a.connectionId = s.connectionId)
      (hevents : c.events = [.connected a]) (hanswered : own.answered c.events = [])
  | serves {s : Session.Handle} (hbefore : p.served? = some s) (hafter : c.phase.served? = some s)
      (hanswered : own.answered c.events = c.events) (hevents : ∀ e ∈ c.events, e.isPresence = false)
  | closes {s : Session.Handle} {b : Event.Disconnected} (hbefore : p.served? = some s)
      (hafter : 8 ≤ c.phase.stage)
      (hsame : b.chargePointId = s.chargePointId ∧ b.connectionId = s.connectionId)
      (hevents : c.events = [.disconnected b]) (hanswered : own.answered c.events = [])

section Steps

variable {g g' : Gateway} {m : Moment} {address : SocketAddress} {p : Phase} {own : Task.Move}
  {c : Passage} {r : History} {number : Nat} {o : Occurrence} {events : List Event} {interval : UInt32}
  {s : Session.Handle}

@[simp]
theorem Task.Move.answered_nil (own : Task.Move) : own.answered [] = [] := by
  cases own <;> rfl

theorem Phase.served?_eq_none (h : p.stage ≤ 5 ∨ 8 ≤ p.stage) : p.served? = none := by
  cases p <;> first | rfl | (simp only [Phase.stage] at h; omega)

theorem Phase.session?_of_served? (h : p.served? = some s) : p.session? = some s := by
  cases p <;> first | exact h | cases h

theorem Phase.chargePointId?_of_session? (h : p.session? = some s) :
    p.chargePointId? = some s.chargePointId := by
  cases p <;> cases h <;> rfl

theorem Phase.connectionId?_of_session? (h : p.session? = some s) :
    p.connectionId? = some s.connectionId := by
  cases p <;> cases h <;> rfl

/-- A step of a task that is not broken off tells one of the four things. -/
theorem Passes.tells (h : Passes g m address p own c) (hg : g.dispatcher = .standard interval)
    (hwhole : own.breaksOff g m = false) : Tells p own c := by
  have hquiet {s : Session.Handle} (hbefore : p.served? = some s) (hafter : c.phase.served? = some s)
      (hevents : c.events = []) : Tells p own c := by
    refine .serves hbefore hafter ?_ ?_
    · rw [hevents, Task.Move.answered_nil]
    · rw [hevents]
      intro e he
      cases he
  cases h with
  | serve => exact .opens rfl rfl rfl ⟨rfl, rfl⟩ rfl rfl
  | wait | endService | forward | failToForward | refuse | failToRefuse | echo | leave =>
    exact hquiet rfl rfl rfl
  | @answer _ session _ _ text _ _ _ _ _ hrun | @failToAnswer _ session _ _ text _ _ _ _ _ hrun =>
    refine .serves rfl rfl rfl ?_
    have hother := Dispatcher.isPresence_handleText interval session.chargePointId m.receivedAt text g.service
      m.readings
    rw [← hg, hrun] at hother
    exact hother
  | breakDown hdeadline =>
    simp only [Task.Move.breaksOff, answers, hdeadline] at hwhole
    cases hwhole
  | tellEnd => exact .closes rfl (Nat.le_refl 8) ⟨rfl, rfl⟩ rfl rfl
  | abortAccepted | abortOpening | abortServing | abortLeaving => cases hwhole
  | _ => exact .nothing rfl rfl rfl

/-- A connection id is drawn once, and stays that of the task. -/
theorem Passes.connectionIds (h : Passes g m address p own c) {n : UInt64}
    (hn : c.phase.connectionId? = some n) :
    p.connectionId? = some n ∨ own.connectionIds g = [n] := by
  cases h with
  | drawId hdraw =>
    obtain ⟨rfl, -⟩ := Prod.mk.inj hdraw
    obtain rfl := Option.some.inj hn
    exact .inr rfl
  | insert hconnect hinsert =>
    obtain ⟨hsession, -⟩ := Exchange.insert_connect hconnect hinsert
    refine .inl ?_
    rw [← hn]
    show _ = some (Session.Handle.connectionId _)
    rw [hsession]
    rfl
  | _ => first | exact .inl hn | cases hn

/-- A connection that is turned away has told nothing, and does not begin. -/
theorem Passes.turnsAway (h : Passes g m address p own c) (hown : own.turnsAway g = true) :
    p.stage ≤ 5 ∧ 8 ≤ c.phase.stage ∧ c.events = [] := by
  cases h with
  | identify haccept =>
    simp only [Task.Move.turnsAway, haccept] at hown
    cases hown
  | serve hdown =>
    have hup : g.shutdown.isTriggered = true := hown
    rw [hdown] at hup
    cases hup
  | refuseToOpen | failToOpen | turnAway =>
    exact ⟨Nat.le_of_ble_eq_true rfl, Nat.le_of_ble_eq_true rfl, rfl⟩
  | _ => cases hown

/-- A task that is on its way out tells nothing. -/
theorem Passes.events_of_stage (h : Passes g m address p own c) (hstage : 8 ≤ p.stage) :
    c.events = [] := by
  cases h with
  | remove => rfl
  | _ => exact absurd hstage (Nat.not_le_of_gt (Nat.le_of_ble_eq_true rfl))

/-- What a task has told goes on with what its step tells. -/
theorem Told.extend (h : Told p r) (htells : Tells p own c) (hstage : p.stage ≤ c.phase.stage)
    (hown : ∀ s, p.session? = some s → s.chargePointId ∈ r.identities ∧ s.connectionId ∈ r.connectionIds) :
    Told c.phase (r.extend g own c) := by
  have hlater {a : Event.Connected} (h : a.chargePointId ∈ r.identities ∧ a.connectionId ∈ r.connectionIds) :
      a.chargePointId ∈ (r.extend g own c).identities ∧
        a.connectionId ∈ (r.extend g own c).connectionIds :=
    ⟨List.mem_append_left _ h.1, List.mem_append_left _ h.2⟩
  have hpublished : (r.extend g own c).published = r.published ++ c.events := rfl
  have hanswered : (r.extend g own c).answered = r.answered ++ own.answered c.events := rfl
  cases htells with
  | nothing hbefore hafter hevents =>
    rw [hevents, List.append_nil] at hpublished
    rw [hevents, Task.Move.answered_nil, List.append_nil] at hanswered
    cases h with
    | nothing _ hnone hsilent => exact .nothing hafter (hpublished.trans hnone) (hanswered.trans hsilent)
    | begun hphase =>
      rw [hbefore] at hphase
      cases hphase
    | ended hphase hsame hdrawn hall =>
      refine .ended (Nat.le_trans hphase hstage) hsame (hlater hdrawn) ?_
      rw [hpublished, hanswered]
      exact hall
  | @opens s a hbefore hsession hafter hsame hevents hnone =>
    rw [hevents] at hpublished
    rw [hnone, List.append_nil] at hanswered
    cases h with
    | nothing _ hempty hsilent =>
      have hdrawn : a.chargePointId ∈ r.identities ∧ a.connectionId ∈ r.connectionIds := by
        rw [hsame.1, hsame.2]
        exact hown s hsession
      refine .begun hafter hsame (hlater hdrawn) ?_
      rw [hpublished, hanswered, hempty, hsilent]
      rfl
    | begun hphase =>
      rw [Phase.served?_eq_none (.inl (Nat.le_of_eq hbefore))] at hphase
      cases hphase
    | ended hphase => omega
  | serves hbefore hafter hall =>
    rw [hall] at hanswered
    cases h with
    | nothing hphase =>
      rw [hbefore] at hphase
      cases hphase
    | begun hphase hsame hdrawn hbegun =>
      rw [hbefore] at hphase
      obtain rfl := Option.some.inj hphase
      refine .begun hafter hsame (hlater hdrawn) ?_
      rw [hpublished, hanswered, hbegun]
      rfl
    | ended hphase =>
      rw [Phase.served?_eq_none (.inr hphase)] at hbefore
      cases hbefore
  | closes hbefore hafter hsame hevents hnone =>
    rw [hevents] at hpublished
    rw [hnone, List.append_nil] at hanswered
    cases h with
    | nothing hphase =>
      rw [hbefore] at hphase
      cases hphase
    | begun hphase hsession hdrawn hbegun =>
      rw [hbefore] at hphase
      obtain rfl := Option.some.inj hphase
      refine .ended hafter ⟨hsame.1.trans hsession.1.symm, hsame.2.trans hsession.2.symm⟩ (hlater hdrawn) ?_
      rw [hpublished, hanswered, hbegun]
      rfl
    | ended hphase =>
      rw [Phase.served?_eq_none (.inr hphase)] at hbefore
      cases hbefore

/-- A step of a task keeps what holds of what it has told. -/
theorem Reported.pass (h : Reported p r) (hpasses : Passes g m address p own c)
    (hg : g.dispatcher = .standard interval) (hwhole : own.breaksOff g m = false) :
    Reported c.phase (r.extend g own c) := by
  have htells : Tells p own c := hpasses.tells hg hwhole
  constructor
  case identity =>
    intro id hid
    rcases hpasses.identities with ⟨-, hsame⟩ | ⟨waiter, id', hown, -, rfl⟩
    · exact List.mem_append_left _ (h.identity id (hsame id hid))
    · obtain rfl := Option.some.inj hid
      show _ ∈ r.identities ++ own.identities g
      rw [hown]
      exact List.mem_append_right _ (List.mem_singleton_self _)
  case connectionId =>
    intro n hn
    rcases hpasses.connectionIds hn with hsame | hown
    · exact List.mem_append_left _ (h.connectionId n hsame)
    · show n ∈ r.connectionIds ++ own.connectionIds g
      rw [hown]
      exact List.mem_append_right _ (List.mem_singleton_self n)
  case told =>
    refine h.told.extend htells hpasses.stage_le fun s hs => ⟨?_, ?_⟩
    · exact h.identity _ (Phase.chargePointId?_of_session? hs)
    · exact h.connectionId _ (Phase.connectionId?_of_session? hs)
  case answered =>
    intro e he
    rcases List.mem_append.1 he with he | he
    · exact h.answered e he
    · cases htells with
      | nothing _ _ hevents =>
        rw [hevents, Task.Move.answered_nil] at he
        cases he
      | opens _ _ _ _ _ hnone | closes _ _ _ _ hnone =>
        rw [hnone] at he
        cases he
      | serves _ _ hall hother =>
        rw [hall] at he
        exact hother e he
  case turnedAway =>
    intro haway
    show 8 ≤ c.phase.stage ∧ r.published ++ c.events = []
    rcases Bool.or_eq_true_iff.1 haway with haway | hown
    · obtain ⟨hstage, hnone⟩ := h.turnedAway haway
      refine ⟨Nat.le_trans hstage hpasses.stage_le, ?_⟩
      rw [hnone, hpasses.events_of_stage hstage]
      rfl
    · obtain ⟨hbefore, hafter, hevents⟩ := hpasses.turnsAway hown
      refine ⟨hafter, ?_⟩
      rw [hevents, List.append_nil]
      cases h.told with
      | nothing _ hnone => exact hnone
      | begun hphase =>
        rw [Phase.served?_eq_none (.inl hbefore)] at hphase
        cases hphase
      | ended hphase => omega

/-! ## What holds on every course -/

theorem reported_new : Reported .accepted ⟨[], [], [], [], false⟩ where
  identity _ h := by cases h
  connectionId _ h := by cases h
  told := .nothing rfl rfl rfl
  answered _ h := by cases h
  turnedAway h := by cases h

/-- A step of a task goes on with its story. -/
theorem history_own {course : Course} (hown : o.own? number = some (m, own)) (c : Passage) :
    Course.history ⟨g', course.entries ++ [⟨course.gateway, o, g', c.events⟩]⟩ number =
      (course.history number).extend course.gateway own c := by
  unfold Course.history History.extend Course.record Course.published
  simp only [List.flatMap_append, List.flatMap_singleton, List.any_append, List.any_cons, List.any_nil,
    hown, Option.elim_some, Option.any_some, Bool.or_false]

/-- What is not a step of a task adds nothing to its story. -/
theorem history_other {course : Course} (hown : o.own? number = none) :
    Course.history ⟨g', course.entries ++ [⟨course.gateway, o, g', events⟩]⟩ number =
      course.history number := by
  unfold Course.history Course.record Course.published
  simp only [List.flatMap_append, List.flatMap_singleton, List.any_append, List.any_cons, List.any_nil,
    hown, Option.elim_none, Option.any_none, Bool.or_false, List.append_nil]

/-- A course is whole if it was before, and what happens breaks nothing off. -/
theorem Course.isWhole_extend {course : Course} {e : Entry} :
    IsWhole ⟨g', course.entries ++ [e]⟩ ↔ course.IsWhole ∧ e.occurrence.breaksOff e.before = false := by
  unfold IsWhole
  simp only [List.mem_append, List.mem_singleton, or_imp, forall_and, forall_eq]

theorem Occurrence.breaksOff_of_own (h : o.own? number = some (m, own)) (g : Gateway) :
    o.breaksOff g = own.breaksOff g m := by
  cases o with
  | step m' move =>
    obtain ⟨own', hmove, hpair⟩ := Option.map_eq_some_iff.1 h
    obtain ⟨rfl, rfl⟩ := Prod.mk.inj hpair
    cases move with
    | task n own'' =>
      obtain ⟨-, hsame⟩ := Option.ite_none_right_eq_some.1 hmove
      obtain rfl := Option.some.inj hsame
      rfl
    | _ => cases hmove
  | _ => cases h

/-- What holds on a course in which no task is broken off. -/
structure Course.Tells (c : Course) (interval : UInt32) : Prop where
  dispatcher : c.gateway.dispatcher = .standard interval
  reported : ∀ i, Reported (c.gateway.phase i) (c.history i)

theorem Course.tells_new (config : Config) :
    Course.Tells ⟨new config, []⟩ config.ocpp.heartbeatInterval :=
  ⟨rfl, fun _ => reported_new⟩

theorem Course.Tells.extend {course : Course} (h : course.Tells interval)
    (hbrings : Brings course.gateway o g' events) (hwhole : o.breaksOff course.gateway = false) :
    Course.Tells ⟨g', course.entries ++ [⟨course.gateway, o, g', events⟩]⟩ interval := by
  refine ⟨hbrings.dispatcher_eq.trans h.dispatcher, fun i => ?_⟩
  have hreported := h.reported i
  cases hown : o.own? i with
  | none =>
    rw [history_other hown, hbrings.phase_eq hown]
    exact hreported
  | some move =>
    obtain ⟨m, own⟩ := move
    rw [Occurrence.breaksOff_of_own hown] at hwhole
    obtain ⟨t, c, bus, ht, hpasses, rfl, rfl⟩ := hbrings.passes hown
    have hphase : ({ course.gateway.pass i c with bus := bus } : Gateway).phase i = c.phase :=
      phase_pass_self ht c
    rw [history_own hown, hphase]
    rw [phase_of_task ht] at hreported
    exact hreported.pass hpasses h.dispatcher hwhole

/-- **On a course in which no task is broken off, every connection tells its story.** -/
theorem Course.tells_of {config : Config} (occurrences : List Occurrence)
    (hwhole : (Course.of (new config) occurrences).IsWhole) :
    (Course.of (new config) occurrences).Tells config.ocpp.heartbeatInterval := by
  refine of_keeps (P := fun c => c.IsWhole → c.Tells config.ocpp.heartbeatInterval)
    (fun _ => tells_new config) ?_ occurrences hwhole
  intro c o g' events hc hhappen hwhole
  obtain ⟨hbefore, hnow⟩ := isWhole_extend.1 hwhole
  exact (hc hbefore).extend (brings_of_happen hhappen) hnow

end Steps

end Gateway

end StationGateway
