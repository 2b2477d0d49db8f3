import StationGateway.Proofs.Dispatcher.Outcome
import StationGateway.Proofs.Dispatcher.Rejection
import StationGateway.Proofs.Gateway.Conversation

/-!
# Which refusals a connection publishes

Whoever is told of an error has been refused something, and those who listen to the events of a gateway
should learn of it: for every error that a connection answers with, one refusal with what the error says
(`Course.due`).

**The law** (`rejected_eq_due_iff`): a connection publishes no refusal that is not due, and all that are due
but for one kind. The dispatcher publishes what it refuses. Bytes that are no text never reach it: the
connection answers them with an error of its own, and tells nobody else.

An answer counts from the moment that it is made, also if it cannot be written any more.
-/

namespace StationGateway.Gateway

/-- The refusals among events. -/
def rejected (events : List Event) : List Event :=
  events.filter fun e => decide (e.kind = .callRejected)

/-- Whether a message is bytes that are no text. -/
def isNotText : Inbound → Bool
  | .binary bytes => (String.fromUTF8? bytes).isNone
  | _ => false

/-- Whether a message is answered at all: it is not if its deadline cannot be computed. -/
def answers (g : Gateway) (m : Moment) : Bool :=
  (Idle.deadline? m.clock g.config.ocpp.idleTimeout).isSome

/-- The refusals that are due for a step of a task: one for each error that it answers with. -/
def Task.Move.due (g : Gateway) (m : Moment) (id : String) : Task.Move → List Event
  | .read message _ =>
    if g.answers m then (g.replyTo m id message).flatMap (Dispatcher.rejections id m.receivedAt) else []
  | _ => []

/-- The messages that a step of a task answers without the dispatcher. -/
def Task.Move.refused (g : Gateway) (m : Moment) : Task.Move → List Inbound
  | .read message _ => if g.answers m && isNotText message then [message] else []
  | _ => []

namespace Course

variable (c : Course) (number : Nat)

/-- The events that a connection has published. -/
def published : List Event :=
  c.entries.flatMap fun e => (e.occurrence.own? number).elim [] fun _ => e.events

/-- The refusals that were due for the errors that a connection has answered with. -/
def due (id : String) : List Event :=
  c.entries.flatMap fun e => (e.occurrence.own? number).elim [] fun (m, own) => own.due e.before m id

/-- The messages that a connection has answered without the dispatcher. -/
def refused : List Inbound :=
  c.entries.flatMap fun e => (e.occurrence.own? number).elim [] fun (m, own) => own.refused e.before m

end Course

/-! ## What is due and what is published -/

/-- Whether what is published is due, and is all but as many as there are messages that were answered
without the dispatcher. -/
structure Accounted (published due : List Event) (refused : List Inbound) : Prop where
  sublist : (rejected published).Sublist due
  length_eq : due.length = (rejected published).length + refused.length

section Accounted

variable {published published' due due' : List Event} {refused refused' : List Inbound}

theorem accounted_of_eq (h : rejected published = due) : Accounted published due [] :=
  ⟨h ▸ List.Sublist.refl _, h ▸ rfl⟩

theorem Accounted.append (h : Accounted published due refused) (h' : Accounted published' due' refused') :
    Accounted (published ++ published') (due ++ due') (refused ++ refused') := by
  have hrejected : rejected (published ++ published') = rejected published ++ rejected published' :=
    List.filter_append _ _
  constructor
  · rw [hrejected]
    exact h.sublist.append h'.sublist
  · have hlength := h.length_eq
    have hlength' := h'.length_eq
    rw [hrejected]
    simp only [List.length_append]
    omega

/-- All that is due is published if the dispatcher has answered everything, and not otherwise. -/
theorem Accounted.eq_iff (h : Accounted published due refused) :
    rejected published = due ↔ refused = [] := by
  have hlength := h.length_eq
  constructor
  · intro heq
    rw [heq] at hlength
    exact List.length_eq_zero_iff.1 (by omega)
  · rintro rfl
    exact h.sublist.eq_of_length (by simpa using hlength.symm)

end Accounted

/-- The dispatcher of a gateway publishes a refusal for an error, and no other. -/
theorem rejected_handleText (interval : UInt32) (id : String) (now : Timestamp) (text : String)
    (service : Service) (readings : Readings) :
    let r := ((Dispatcher.standard interval).handleText id now text).run ⟨service, [], [], readings⟩
    rejected r.2.events = Dispatcher.rejections id now r.1 := by
  intro r
  unfold r
  rw [Dispatcher.handleText_run]
  obtain ⟨outcome, hends⟩ := Dispatcher.ends_answer interval id now text
    ⟨service, [], [], readings⟩
  cases hends with
  | success _ _ _ _ _ _ hkind _ hevents hreply =>
    rw [hevents, hreply, Dispatcher.rejections_callResult]
    exact List.filter_cons_of_neg (by simpa using hkind)
  | serviceFailure _ _ _ _ _ _ _ hevents hreply =>
    rw [hevents, hreply]
    exact (Dispatcher.rejections_error id _ now .internalError _).symm
  | rejection _ _ _ _ hevents hreply =>
    rw [hevents, hreply]
    exact (Dispatcher.rejections_error id _ now _ _).symm

section Steps

variable {g g' : Gateway} {m : Moment} {address : SocketAddress} {p : Phase} {own : Task.Move}
  {c : Passage} {interval : UInt32} {id : String} {message : Inbound} {isWritten : Bool} {next : Int64}

theorem isNotText_iff : isNotText message = true ↔ message.demand = .refuse := by
  cases message with
  | binary bytes =>
    simp only [isNotText, Inbound.demand]
    cases String.fromUTF8? bytes <;> simp
  | text | ping | pong | close | ended | broken =>
    constructor
    · intro h
      cases h
    · intro h
      cases h

theorem due_read (hdeadline : Idle.deadline? m.clock g.config.ocpp.idleTimeout = some next) :
    (Task.Move.read message isWritten).due g m id =
      (g.replyTo m id message).flatMap (Dispatcher.rejections id m.receivedAt) := by
  simp only [Task.Move.due, answers, hdeadline, Option.isSome_some, if_true]

/-- What is answered through the dispatcher is not counted among the exceptions. -/
theorem refused_read (h : message.demand ≠ .refuse) :
    (Task.Move.read message isWritten).refused g m = [] := by
  have htext : isNotText message = false := by
    rw [← Bool.not_eq_true]
    exact fun hnot => h (isNotText_iff.1 hnot)
  simp only [Task.Move.refused, htext, Bool.and_false]
  rfl

/-- Bytes that are no text ought to be told of like any other error. -/
theorem due_of_refuse (hdemand : message.demand = .refuse) :
    (g.replyTo m id message).flatMap (Dispatcher.rejections id m.receivedAt) =
      [.callRejected ⟨id, "", "FormationViolation", "Binary frame is not valid UTF-8", m.receivedAt⟩] := by
  rw [replyTo_of_refuse hdemand, List.flatMap_singleton]
  exact Dispatcher.rejections_error id "" m.receivedAt .formationViolation _

/-- A task that breaks down has answered nothing. -/
theorem accounted_breakDown (hdeadline : Idle.deadline? m.clock g.config.ocpp.idleTimeout = none) :
    Accounted [] ((Task.Move.read message isWritten).due g m id)
      ((Task.Move.read message isWritten).refused g m) := by
  simp only [Task.Move.due, Task.Move.refused, answers, hdeadline]
  exact accounted_of_eq rfl

theorem demand_of_mem_refused (h : message ∈ own.refused g m) : message.demand = .refuse := by
  cases own with
  | read other isWritten =>
    simp only [Task.Move.refused] at h
    split at h
    · rename_i hrefused
      obtain rfl := List.mem_singleton.1 h
      exact isNotText_iff.1 (Bool.and_eq_true_iff.1 hrefused).2
    · cases h
  | _ => cases h

/-- A connection that refuses bytes that are no text publishes nothing. -/
theorem accounted_refuse (hdeadline : Idle.deadline? m.clock g.config.ocpp.idleTimeout = some next)
    (hdemand : message.demand = .refuse) :
    Accounted [] ((Task.Move.read message isWritten).due g m id)
      ((Task.Move.read message isWritten).refused g m) := by
  rw [due_read hdeadline, due_of_refuse hdemand]
  have hrefused : (Task.Move.read message isWritten).refused g m = [message] := by
    simp only [Task.Move.refused, answers, hdeadline, isNotText_iff.2 hdemand, Option.isSome_some,
      Bool.and_self, if_true]
  rw [hrefused]
  exact ⟨List.nil_sublist _, rfl⟩

/-- What is not answered is not refused. -/
theorem accounted_silent (hdeadline : Idle.deadline? m.clock g.config.ocpp.idleTimeout = some next)
    (hreply : g.replyTo m id message = []) (hdemand : message.demand ≠ .refuse) :
    Accounted [] ((Task.Move.read message isWritten).due g m id)
      ((Task.Move.read message isWritten).refused g m) := by
  rw [refused_read hdemand, due_read hdeadline, hreply]
  exact accounted_of_eq rfl

/-- What the dispatcher answers is refused as it is told. -/
theorem accounted_answer {text response : String} {desk : Desk} (hg : g.dispatcher = .standard interval)
    (hdeadline : Idle.deadline? m.clock g.config.ocpp.idleTimeout = some next)
    (hdemand : message.demand = .answer text)
    (hrun : (g.dispatcher.handleText id m.receivedAt text).run ⟨g.service, [], [], m.readings⟩ =
      (response, desk)) :
    Accounted desk.events ((Task.Move.read message isWritten).due g m id)
      ((Task.Move.read message isWritten).refused g m) := by
  have hrefuse : message.demand ≠ .refuse := by
    rw [hdemand]
    exact fun h => nomatch h
  rw [refused_read hrefuse, due_read hdeadline, replyTo_of_answer hdemand, List.flatMap_singleton,
    answerTo, hrun]
  apply accounted_of_eq
  have hrejected := rejected_handleText interval id m.receivedAt text g.service m.readings
  rw [← hg, hrun] at hrejected
  exact hrejected

/-- A step of a task publishes what is due, but for bytes that are no text. -/
theorem Passes.accounted (h : Passes g m address p own c) (hg : g.dispatcher = .standard interval)
    (hid : ∀ waiter s deadline, p = .serving waiter s deadline → s.chargePointId = id) :
    Accounted c.events (own.due g m id) (own.refused g m) := by
  cases h with
  | breakDown hdeadline => exact accounted_breakDown hdeadline
  | answer hdeadline hdemand hrun | failToAnswer hdeadline hdemand hrun =>
    obtain rfl := hid _ _ _ rfl
    exact accounted_answer hg hdeadline hdemand hrun
  | refuse hdeadline hdemand | failToRefuse hdeadline hdemand => exact accounted_refuse hdeadline hdemand
  | echo hdeadline hdemand =>
    refine accounted_silent hdeadline (replyTo_of_echo hdemand id).1 ?_
    rw [hdemand]
    exact fun h => nomatch h
  | leave hdeadline hdemand =>
    refine accounted_silent hdeadline (replyTo_of_leave hdemand id).1 ?_
    rw [hdemand]
    exact fun h => nomatch h
  | _ => exact accounted_of_eq rfl

theorem Brings.dispatcher_eq {o : Occurrence} {events : List Event} (h : Brings g o g' events) :
    g'.dispatcher = g.dispatcher := by
  cases h with
  | turn bus hturns => cases hturns <;> rfl
  | _ => rfl

end Steps

/-! ## The law -/

section Law

variable {g g' : Gateway} {interval : UInt32} {id : String} {number : Nat}

/-- What holds of the refusals of a task on every course. The charge point is the one for which the
connection is opened, as soon as it is. -/
structure Counted (c : Course) (number : Nat) (interval : UInt32) : Prop where
  sound : Sound c number
  dispatcher : c.gateway.dispatcher = .standard interval
  accounted : ∀ id, (∀ id' ∈ (c.record number).identities, id' = id) →
    Accounted (c.published number) (c.due number id) (c.refused number)

theorem Counted.extend {c : Course} {o : Occurrence} {events : List Event}
    (h : Counted c number interval) (hbrings : Brings c.gateway o g' events) :
    Counted ⟨g', c.entries ++ [⟨c.gateway, o, g', events⟩]⟩ number interval where
  sound := h.sound.extend hbrings
  dispatcher := hbrings.dispatcher_eq.trans h.dispatcher
  accounted id hid := by
    have hbefore : ∀ id' ∈ (c.record number).identities, id' = id := by
      intro id' hid'
      refine hid id' ?_
      unfold Course.record
      rw [List.flatMap_append]
      exact List.mem_append_left _ hid'
    unfold Course.published Course.due Course.refused
    simp only [List.flatMap_append, List.flatMap_singleton]
    apply (h.accounted id hbefore).append
    cases hown : o.own? number with
    | none => exact accounted_of_eq rfl
    | some move =>
      obtain ⟨m, own⟩ := move
      obtain ⟨t, passage, bus, ht, hpasses, rfl, rfl⟩ := hbrings.passes hown
      apply hpasses.accounted h.dispatcher
      intro waiter s deadline hserving
      refine hbefore _ ?_
      have hphase : (c.gateway.phase number).chargePointId? = some s.chargePointId := by
        rw [phase_of_task ht, hserving]
        rfl
      rw [h.sound.kept.identities_eq _ hphase]
      exact List.mem_singleton_self _

theorem counted_of (hg : g.tasks = #[]) (hdispatcher : g.dispatcher = .standard interval)
    (occurrences : List Occurrence) (number : Nat) : Counted (Course.of g occurrences) number interval :=
  Course.of_keeps (P := (Counted · number interval))
    ⟨sound_start hg number, hdispatcher, fun _ _ => accounted_of_eq rfl⟩
    (fun _ _ _ _ h hhappen => h.extend (brings_of_happen hhappen)) occurrences

/-- **A connection publishes the refusals that are due, but for bytes that are no text.** Whatever happens
to a gateway that had no connections, for a connection that was opened for a charge point:

- what it publishes is due, and comes in the order in which it is;
- there is one refusal too few for each message that was bytes that are no text;
- so all that is due is published exactly if there was no such message. -/
theorem rejected_eq_due_iff (hg : g.tasks = #[]) (hdispatcher : g.dispatcher = .standard interval)
    (occurrences : List Occurrence) (number : Nat)
    (hid : id ∈ ((Course.of g occurrences).record number).identities) :
    let c := Course.of g occurrences
    (rejected (c.published number)).Sublist (c.due number id) ∧
      (c.due number id).length = (rejected (c.published number)).length + (c.refused number).length ∧
      (rejected (c.published number) = c.due number id ↔ c.refused number = []) ∧
      ∀ m message, message ∈ c.refused number →
        message.demand = .refuse ∧
        (c.gateway.replyTo m id message).flatMap (Dispatcher.rejections id m.receivedAt) =
          [.callRejected ⟨id, "", "FormationViolation", "Binary frame is not valid UTF-8", m.receivedAt⟩] := by
  intro c
  have hcounted := counted_of hg hdispatcher occurrences number
  have honly : ∀ id' ∈ (c.record number).identities, id' = id := by
    intro id' hid'
    obtain ⟨only, honly⟩ := List.length_eq_one_iff.1
      (Nat.le_antisymm hcounted.sound.kept.once (List.length_pos_of_mem hid))
    rw [honly] at hid hid'
    exact (List.mem_singleton.1 hid').trans (List.mem_singleton.1 hid).symm
  have haccounted := hcounted.accounted id honly
  refine ⟨haccounted.sublist, haccounted.length_eq, haccounted.eq_iff, ?_⟩
  intro m message hmessage
  have hrefuse : message.demand = .refuse := by
    obtain ⟨e, -, he⟩ := List.mem_flatMap.1 hmessage
    cases hown : e.occurrence.own? number with
    | none =>
      rw [hown] at he
      cases he
    | some move =>
      rw [hown] at he
      exact demand_of_mem_refused he
  exact ⟨hrefuse, due_of_refuse hrefuse⟩

/-- What happens to a connection that reads bytes that are no text, and then a text that is no frame. -/
def gibberish : List Occurrence :=
  List.map (Occurrence.step (.still .epoch 0 "")) [
    .accept (.v4 ⟨192, 0, 2, 1⟩ 5000),
    .task 0 .subscribe,
    .task 0 (.receiveRequest ⟨"/ws", some "id=CP-1"⟩ []),
    .task 0 .drawId,
    .task 0 .insert,
    .task 0 .closeOld,
    .task 0 .beginService,
    .task 0 (.read (.binary ⟨#[255, 254]⟩) true),
    .task 0 (.read (.text "not json") true)]

/-- Both are answered with an error, and one refusal is published. -/
theorem rejected_eq_due_iff_gibberish :
    let c := Course.of (new {}) gibberish
    (new {}).tasks = #[] ∧ (new {}).dispatcher = .standard 60 ∧
      "CP-1" ∈ (c.record 0).identities ∧
      (c.due 0 "CP-1").length = 2 ∧ (rejected (c.published 0)).length = 1 ∧
      rejected (c.published 0) ≠ c.due 0 "CP-1" := by
  intro c
  have hid : "CP-1" ∈ (c.record 0).identities := by decide +kernel
  have hdue : (c.due 0 "CP-1").length = 2 := by decide +kernel
  have hrefused : (c.refused 0).length = 1 := by decide +kernel
  obtain ⟨-, hlength, heq, -⟩ := rejected_eq_due_iff (g := new {}) rfl rfl gibberish 0 hid
  refine ⟨rfl, rfl, hid, hdue, ?_, ?_⟩
  · rw [hdue, hrefused] at hlength
    exact (Nat.succ.inj hlength).symm
  · intro hall
    rw [heq.1 hall] at hrefused
    cases hrefused

/-- A charge point that is told of an error, and nobody else is. -/
theorem notText_unpublished :
    let c := Course.of (new {}) (gibberish.take 8)
    (c.record 0).identities = ["CP-1"] ∧
      (texts (c.gateway.written 0)).map (fun text => (Frame.parse text).toOption) =
        [some (.callError "" "FormationViolation" "Binary frame is not valid UTF-8" .empty)] ∧
      c.due 0 "CP-1" =
        [.callRejected ⟨"CP-1", "", "FormationViolation", "Binary frame is not valid UTF-8", .epoch⟩] ∧
      rejected (c.published 0) = [] := by
  intro c
  have hwritten : texts (c.gateway.written 0) = [notText.serialize] := by decide +kernel
  refine ⟨by decide +kernel, ?_, by decide +kernel, by decide +kernel⟩
  rw [hwritten, List.map_singleton, parse_notText]
  rfl

end Law

end StationGateway.Gateway
