import StationGateway.Proofs.Dispatcher.Reply
import StationGateway.Proofs.Gateway.Course

/-!
# The conversation on a connection

A connection that is served reads messages and replies to them, and in between writes the texts that others
have queued for it. What the reply to a message is depends on the charge point, on the message, and on the
service as it is when the message is read (`replyTo`).

**The law** (`written_in_order`): the texts that a connection has written are merged from its replies and
from its queue, each in their order and without a gap. As long as it is served none of the replies is
missing, and of the queued texts those that still wait in its outbox.

Nothing is said of how the two are merged: every order in which a connection reads and forwards is a course
of its gateway.
-/

namespace StationGateway.Gateway

/-! ## Merging -/

/-- Whether a list is merged from two others, with the elements of each in their order. -/
inductive Merges {α : Type} : List α → List α → List α → Prop
  | nil : Merges [] [] []
  | left {xs ys zs} (x : α) (h : Merges xs ys zs) : Merges (xs ++ [x]) ys (zs ++ [x])
  | right {xs ys zs} (y : α) (h : Merges xs ys zs) : Merges xs (ys ++ [y]) (zs ++ [y])

/-- Whether texts were merged from all replies and from a queue, of which some texts still wait. -/
def Flowing (replies queued waiting written : List String) : Prop :=
  ∃ forwarded, Merges replies forwarded written ∧ forwarded ++ waiting = queued

/-- Whether texts were merged from some first replies and some first texts of a queue. -/
def Flowed (replies queued written : List String) : Prop :=
  ∃ answered forwarded, Merges answered forwarded written ∧ answered <+: replies ∧ forwarded <+: queued

section Flowing

variable {replies queued waiting written : List String}

theorem Flowing.flowed (h : Flowing replies queued waiting written) : Flowed replies queued written := by
  obtain ⟨forwarded, hmerges, rfl⟩ := h
  exact ⟨replies, forwarded, hmerges, List.prefix_rfl, List.prefix_append _ _⟩

theorem Flowing.reply (h : Flowing replies queued waiting written) (text : String) :
    Flowing (replies ++ [text]) queued waiting (written ++ [text]) := by
  obtain ⟨forwarded, hmerges, hqueued⟩ := h
  exact ⟨forwarded, hmerges.left text, hqueued⟩

theorem Flowing.forward {text : String} (h : Flowing replies queued (text :: waiting) written) :
    Flowing replies queued waiting (written ++ [text]) := by
  obtain ⟨forwarded, hmerges, hqueued⟩ := h
  refine ⟨forwarded ++ [text], hmerges.right text, ?_⟩
  rw [← hqueued, List.append_assoc]
  rfl

theorem Flowing.queue (h : Flowing replies queued waiting written) (texts : List String) :
    Flowing replies (queued ++ texts) (waiting ++ texts) written := by
  obtain ⟨forwarded, hmerges, rfl⟩ := h
  exact ⟨forwarded, hmerges, (List.append_assoc ..).symm⟩

theorem Flowed.append (h : Flowed replies queued written) (more texts : List String) :
    Flowed (replies ++ more) (queued ++ texts) written := by
  obtain ⟨answered, forwarded, hmerges, hanswered, hforwarded⟩ := h
  exact ⟨answered, forwarded, hmerges, List.prefix_append_of_prefix hanswered,
    List.prefix_append_of_prefix hforwarded⟩

end Flowing

/-! ## What was read, and what was queued -/

/-- The texts among messages. -/
def texts (messages : List Outbound) : List String :=
  messages.filterMap fun
    | .text text => some text
    | .pong _ | .close _ => none

/-- The reply to a text of a charge point. -/
def answerTo (g : Gateway) (m : Moment) (id text : String) : String :=
  ((g.dispatcher.handleText id m.receivedAt text).run ⟨g.service, [], [], m.readings⟩).1

/-- The reply to a message of a charge point, if there is to be one. Bytes that are a text are answered
like the text, and other bytes are refused. -/
def replyTo (g : Gateway) (m : Moment) (id : String) : Inbound → List String
  | .text text => [g.answerTo m id text]
  | .binary bytes =>
    match String.fromUTF8? bytes with
    | some text => [g.answerTo m id text]
    | none => [notText.serialize]
  | .ping _ | .pong | .close _ | .ended | .broken => []

/-- The reply that is due for a step of a task. -/
def Task.Move.replies (g : Gateway) (m : Moment) (id : String) : Task.Move → List String
  | .read message _ => g.replyTo m id message
  | _ => []

/-- For whom a step of a task opens the connection, if it does so. -/
def Task.Move.identities (g : Gateway) : Task.Move → List String
  | .receiveRequest uri protocols =>
    match Handshake.accept uri protocols [] g.config.server.path g.config.server.identityParameter with
    | .ok (id, _) => [id]
    | .error _ => []
  | _ => []

/-- What there is to know of the conversation of a task: for whom the connection was opened, the replies
that are due to somebody, the texts queued, and those written. -/
structure Record where
  identities : List String
  replies : String → List String
  queued : List String
  written : List String

/-- The conversation of the task with a number. -/
def Course.record (c : Course) (number : Nat) : Record where
  identities := c.entries.flatMap fun e =>
    (e.occurrence.own? number).elim [] fun (_, own) => own.identities e.before
  replies id := c.entries.flatMap fun e =>
    (e.occurrence.own? number).elim [] fun (m, own) => own.replies e.before m id
  queued := c.entries.flatMap fun e =>
    (e.before.phase number).session?.elim [] fun s => e.occurrence.queued e.before s.outbox
  written := texts (c.gateway.written number)

/-! ## What holds of every conversation -/

/-- For whom a task has opened its connection. -/
def Phase.chargePointId? : Phase → Option String
  | .accepted | .opening _ | .ended => none
  | .identified _ id | .numbered _ id _ => some id
  | .replacing _ s _ | .registered _ s | .serving _ s _ | .leaving s _ | .removing s =>
    some s.chargePointId

/-- What holds of the conversation of a task at a phase. -/
structure Kept (x : Exchange) (p : Phase) (r : Record) : Prop where
  fresh : p.stage < 2 → r.identities = []
  once : r.identities.length ≤ 1
  identities_eq : ∀ id, p.chargePointId? = some id → r.identities = [id]
  unread : p.stage < 6 → ∀ id, r.replies id = []
  unqueued : p.stage < 4 → r.queued = []
  silent : p.stage < 6 ∨ r.identities = [] → r.written = []
  flowing : ∀ s, p.session? = some s → p.stage ≤ 6 →
    Flowing (r.replies s.chargePointId) r.queued (x.outbox s.outbox).texts r.written
  flowed : ∀ id ∈ r.identities, Flowed (r.replies id) r.queued r.written

section Kept

variable {g g' : Gateway} {m : Moment} {address : SocketAddress} {p : Phase} {own : Task.Move}
  {c : Passage} {x y : Exchange} {r : Record} {number : Nat} {o : Occurrence} {events : List Event}
  {t : Task}

theorem kept_new (x : Exchange) : Kept x .accepted ⟨[], fun _ => [], [], []⟩ where
  fresh _ := rfl
  once := Nat.zero_le 1
  identities_eq _ h := nomatch h
  unread _ _ := rfl
  unqueued _ := rfl
  silent _ := rfl
  flowing _ h := nomatch h
  flowed _ h := nomatch h

/-- More texts may be queued at the end of an outbox. -/
theorem Kept.queue (h : Kept x p r) (queued : List String) (hnone : p.session? = none → queued = [])
    (htexts : ∀ s, p.session? = some s →
      (y.outbox s.outbox).texts = (x.outbox s.outbox).texts ++ queued) :
    Kept y p { r with queued := r.queued ++ queued } where
  fresh := h.fresh
  once := h.once
  identities_eq := h.identities_eq
  unread := h.unread
  unqueued hstage := by
    have hsession : p.session? = none := by
      cases p <;> first | rfl | exact absurd hstage (Nat.not_lt_of_le (Nat.le_of_ble_eq_true rfl))
    show r.queued ++ queued = []
    rw [h.unqueued hstage, hnone hsession]
    rfl
  silent := h.silent
  flowing s hs hstage := by
    rw [htexts s hs]
    exact (h.flowing s hs hstage).queue queued
  flowed id hid := by
    have hflowed := (h.flowed id hid).append [] queued
    rw [List.append_nil] at hflowed
    exact hflowed

/-- What a step of a task adds to its conversation. -/
def Record.extend (r : Record) (g : Gateway) (m : Moment) (own : Task.Move) (c : Passage) : Record where
  identities := r.identities ++ own.identities g
  replies id := r.replies id ++ own.replies g m id
  queued := r.queued
  written := r.written ++ texts c.written

/-- Nothing is read before the connection is served. -/
theorem Passes.replies_eq_nil (h : Passes g m address p own c) (hstage : p.stage < 6) (id : String) :
    own.replies g m id = [] := by
  cases h <;> first | rfl | exact absurd hstage (Nat.lt_irrefl 6)

/-- A connection is opened for somebody once, and stays open for that one. -/
theorem Passes.identities (h : Passes g m address p own c) :
    (own.identities g = [] ∧ ∀ id, c.phase.chargePointId? = some id → p.chargePointId? = some id) ∨
      ∃ waiter id, own.identities g = [id] ∧ p.stage < 2 ∧ c = g.goTo (.identified waiter id) [] [] := by
  cases h with
  | @identify waiter _ _ id _ haccept =>
    refine .inr ⟨waiter, id, ?_, Nat.lt_succ_self 1, rfl⟩
    simp only [Task.Move.identities, haccept]
  | refuseToOpen haccept =>
    refine .inl ⟨?_, fun id hid => nomatch hid⟩
    simp only [Task.Move.identities, haccept]
  | insert hconnect hinsert =>
    obtain ⟨hsession, -⟩ := Exchange.insert_connect hconnect hinsert
    refine .inl ⟨rfl, fun id hid => ?_⟩
    rw [← hid]
    show _ = some (Session.Handle.chargePointId _)
    rw [hsession]
    rfl
  | _ => exact .inl ⟨rfl, fun id hid => by first | exact hid | cases hid⟩

theorem replyTo_of_answer {message : Inbound} {text : String} (h : message.demand = .answer text)
    (id : String) : g.replyTo m id message = [g.answerTo m id text] := by
  cases message with
  | text =>
    cases h
    rfl
  | binary bytes =>
    simp only [Inbound.demand] at h
    split at h
    · rename_i htext
      cases h
      simp only [replyTo, htext]
    · cases h
  | _ => cases h

theorem replyTo_of_refuse {message : Inbound} (h : message.demand = .refuse) (id : String) :
    g.replyTo m id message = [notText.serialize] := by
  cases message with
  | binary bytes =>
    simp only [Inbound.demand] at h
    split at h
    · cases h
    · rename_i htext
      simp only [replyTo, htext]
  | _ => cases h

theorem replyTo_of_echo {message : Inbound} {reply : Option Outbound} (h : message.demand = .echo reply)
    (id : String) : g.replyTo m id message = [] ∧ texts reply.toList = [] := by
  cases message with
  | ping | pong =>
    cases h
    exact ⟨rfl, rfl⟩
  | binary bytes =>
    simp only [Inbound.demand] at h
    split at h <;> cases h
  | _ => cases h

/-- The end of a connection is not replied to. -/
theorem replyTo_of_leave {message : Inbound} {reason : Reason} {reply : Option Outbound}
    (h : message.demand = .leave reason reply) (id : String) :
    g.replyTo m id message = [] ∧ texts reply.toList = [] := by
  cases message with
  | close | ended | broken =>
    cases h
    exact ⟨rfl, rfl⟩
  | binary bytes =>
    simp only [Inbound.demand] at h
    split at h <;> cases h
  | _ => cases h

/-- A text is written on a connection that is served, and goes on being served. -/
theorem Passes.texts_written (h : Passes g m address p own c) :
    texts c.written = [] ∨ ∃ waiter s deadline, c.phase = .serving waiter s deadline ∧
      p.chargePointId? = some s.chargePointId := by
  cases h with
  | forward | answer | refuse => exact .inr ⟨_, _, _, rfl, rfl⟩
  | echo _ hdemand => exact .inl (replyTo_of_echo (g := g) (m := m) hdemand "").2
  | leave _ hdemand => exact .inl (replyTo_of_leave (g := g) (m := m) hdemand "").2
  | @tellEnd _ reason => cases reason <;> exact .inl rfl
  | _ => exact .inl rfl

/-- A task that serves its connection writes what is due, and takes what it forwards from its outbox. -/
theorem Kept.flowing_extend (h : Kept g.exchange p r) (hpasses : Passes g m address p own c)
    {s : Session.Handle} (hs : c.phase.session? = some s) (hstage : c.phase.stage ≤ 6) :
    Flowing ((r.extend g m own c).replies s.chargePointId) (r.extend g m own c).queued
      (c.exchange.outbox s.outbox).texts (r.extend g m own c).written := by
  have hkeep (hsession : p.session? = some s) (hp : p.stage ≤ 6)
      (hreplies : own.replies g m s.chargePointId = []) (hwritten : texts c.written = [])
      (htexts : (c.exchange.outbox s.outbox).texts = (g.exchange.outbox s.outbox).texts) :
      Flowing ((r.extend g m own c).replies s.chargePointId) (r.extend g m own c).queued
        (c.exchange.outbox s.outbox).texts (r.extend g m own c).written := by
    show Flowing (r.replies s.chargePointId ++ _) r.queued _ (r.written ++ _)
    rw [hreplies, hwritten, htexts, List.append_nil, List.append_nil]
    exact h.flowing s hsession hp
  cases hpasses with
  | @insert _ _ _ session _ _ _ hconnect hinsert =>
    obtain ⟨hsession, -, -, hboxes⟩ := Exchange.insert_connect hconnect hinsert
    obtain rfl := Option.some.inj hs
    show Flowing (r.replies _ ++ []) r.queued (Exchange.outbox _ session.toHandle.outbox).texts
      (r.written ++ [])
    rw [h.unread (Nat.le_of_ble_eq_true rfl), h.unqueued (Nat.le_of_ble_eq_true rfl),
      h.silent (.inl (Nat.le_of_ble_eq_true rfl)), hsession]
    refine ⟨[], .nil, ?_⟩
    unfold Exchange.outbox
    rw [hboxes, Array.getElem?_push, if_pos rfl]
    rfl
  | @closeOld _ _ old =>
    apply hkeep hs (Nat.le_of_ble_eq_true rfl) rfl rfl
    cases old with
    | none => rfl
    | some old => exact g.exchange.texts_requestClose old s.outbox
  | serve | wait => exact hkeep hs (Nat.le_of_ble_eq_true rfl) rfl rfl rfl
  | forward hreceive =>
    obtain rfl := Option.some.inj hs
    have hflowing := h.flowing _ rfl (Nat.le_refl 6)
    rw [Exchange.texts_receive hreceive] at hflowing
    show Flowing (r.replies _ ++ []) _ _ _
    rw [List.append_nil]
    exact hflowing.forward
  | answer hdeadline hdemand hrun =>
    obtain rfl := Option.some.inj hs
    show Flowing (r.replies _ ++ g.replyTo m _ _) _ _ _
    rw [replyTo_of_answer hdemand, answerTo, hrun]
    exact (h.flowing _ rfl (Nat.le_refl 6)).reply _
  | refuse hdeadline hdemand =>
    obtain rfl := Option.some.inj hs
    show Flowing (r.replies _ ++ g.replyTo m _ _) _ _ _
    rw [replyTo_of_refuse hdemand]
    exact (h.flowing _ rfl (Nat.le_refl 6)).reply _
  | echo hdeadline hdemand =>
    obtain ⟨hreply, htexts⟩ := replyTo_of_echo (g := g) (m := m) hdemand s.chargePointId
    exact hkeep hs (Nat.le_refl 6) hreply htexts rfl
  | _ => first | exact absurd hstage (Nat.not_le_of_lt (Nat.le_of_ble_eq_true rfl)) | cases hs

/-- A step of a task keeps what holds of its conversation. -/
theorem Kept.pass (h : Kept g.exchange p r) (hpasses : Passes g m address p own c) :
    Kept c.exchange c.phase (r.extend g m own c) := by
  have hflowing (s : Session.Handle) (hs : c.phase.session? = some s) (hstage : c.phase.stage ≤ 6) :=
    h.flowing_extend hpasses hs hstage
  have hidentities (id : String) (hid : c.phase.chargePointId? = some id) :
      (r.extend g m own c).identities = [id] := by
    show r.identities ++ own.identities g = [id]
    rcases hpasses.identities with ⟨hnone, hsame⟩ | ⟨waiter, id', hown, hstage, rfl⟩
    · rw [hnone, List.append_nil]
      exact h.identities_eq id (hsame id hid)
    · obtain rfl := Option.some.inj hid
      rw [h.fresh hstage, hown]
      rfl
  refine ⟨?_, ?_, hidentities, ?_, ?_, ?_, hflowing, ?_⟩
  · intro hstage
    show r.identities ++ own.identities g = []
    rcases hpasses.identities with ⟨hnone, -⟩ | ⟨waiter, id, -, -, rfl⟩
    · rw [hnone, h.fresh (Nat.lt_of_le_of_lt hpasses.stage_le hstage)]
      rfl
    · exact absurd hstage (Nat.lt_irrefl 2)
  · show (r.identities ++ own.identities g).length ≤ 1
    rcases hpasses.identities with ⟨hnone, -⟩ | ⟨waiter, id, hown, hstage, -⟩
    · rw [hnone, List.append_nil]
      exact h.once
    · rw [h.fresh hstage, hown]
      exact Nat.le_refl 1
  · intro hstage id
    show r.replies id ++ own.replies g m id = []
    have hbefore : p.stage < 6 := Nat.lt_of_le_of_lt hpasses.stage_le hstage
    rw [h.unread hbefore, hpasses.replies_eq_nil hbefore]
    rfl
  · intro hstage
    exact h.unqueued (Nat.lt_of_le_of_lt hpasses.stage_le hstage)
  · intro hquiet
    show r.written ++ texts c.written = []
    have hbefore : p.stage < 6 ∨ r.identities = [] :=
      hquiet.imp (Nat.lt_of_le_of_lt hpasses.stage_le) fun hnone => (List.append_eq_nil_iff.1 hnone).1
    rcases hpasses.texts_written with hsilent | ⟨waiter, s, deadline, hserving, hid⟩
    · rw [hsilent, h.silent hbefore]
      rfl
    · rcases hquiet with hlow | hnone
      · rw [hserving] at hlow
        exact absurd hlow (Nat.lt_irrefl 6)
      · have hsome := h.identities_eq _ hid
        rw [(List.append_eq_nil_iff.1 hnone).1] at hsome
        cases hsome
  · intro id hid
    rcases hpasses.texts_written with hsilent | ⟨waiter, s, deadline, hserving, -⟩
    · show Flowed (r.replies id ++ _) r.queued (r.written ++ texts c.written)
      rw [hsilent, List.append_nil]
      rcases hpasses.identities with ⟨hnone, -⟩ | ⟨waiter, id', -, hearly, -⟩
      · have hmem : id ∈ r.identities := by
          rw [← List.append_nil r.identities, ← hnone]
          exact hid
        have hflowed := (h.flowed id hmem).append (own.replies g m id) []
        rw [List.append_nil] at hflowed
        exact hflowed
      · rw [h.silent (.inl (Nat.lt_of_lt_of_le hearly (Nat.le_of_ble_eq_true rfl)))]
        exact ⟨[], [], .nil, List.nil_prefix, List.nil_prefix⟩
    · -- the connection is served, for the one it was opened for
      rw [hidentities s.chargePointId (by rw [hserving]; rfl)] at hid
      obtain rfl := List.mem_singleton.1 hid
      exact (hflowing s (by rw [hserving]; rfl) (by rw [hserving]; exact Nat.le_refl 6)).flowed

theorem Occurrence.queued_of_own {key : Nat} (hown : o.own? number = some (m, own)) :
    o.queued g key = [] := by
  cases o with
  | step m move =>
    cases move with
    | send => cases hown
    | _ => rfl
  | send => cases hown
  | _ => rfl

/-- A step of a task is one entry more of its conversation. -/
theorem record_own {course : Course} (ht : course.gateway.tasks[number]? = some t)
    (hown : o.own? number = some (m, own)) (c : Passage) (bus : EventBus) :
    Course.record ⟨{ course.gateway.pass number c with bus := bus },
        course.entries ++ [⟨course.gateway, o, { course.gateway.pass number c with bus := bus }, events⟩]⟩
        number =
      (course.record number).extend course.gateway m own c := by
  have hqueued : ((course.gateway.phase number).session?.elim [] fun s =>
      o.queued course.gateway s.outbox) = [] := by
    cases (course.gateway.phase number).session? with
    | none => rfl
    | some s => exact Occurrence.queued_of_own hown
  have hwritten : texts ((course.gateway.pass number c).written number) =
      texts (course.gateway.written number) ++ texts c.written := by
    rw [written_pass_self ht]
    exact List.filterMap_append
  unfold Course.record Record.extend
  simp only [List.flatMap_append, List.flatMap_singleton, hown, hqueued, Option.elim_some,
    List.append_nil]
  congr 1

/-- What is not a step of a task can only add to its queue. -/
theorem record_other {course : Course} (h : Brings course.gateway o g' events)
    (hown : o.own? number = none) :
    Course.record ⟨g', course.entries ++ [⟨course.gateway, o, g', events⟩]⟩ number =
      { course.record number with
        queued := (course.record number).queued ++
          (course.gateway.phase number).session?.elim [] fun s => o.queued course.gateway s.outbox } := by
  unfold Course.record
  simp only [List.flatMap_append, List.flatMap_singleton, hown, Option.elim_none, List.append_nil,
    h.written_eq hown]

/-- What holds of the conversation of a task on every course. -/
structure Sound (course : Course) (number : Nat) : Prop where
  apart : course.gateway.Apart
  kept : Kept course.gateway.exchange (course.gateway.phase number) (course.record number)

theorem sound_start (hg : g.tasks = #[]) (number : Nat) : Sound ⟨g, []⟩ number := by
  refine ⟨apart_new g hg, ?_⟩
  have hphase : g.phase number = .accepted := by
    unfold phase
    rw [hg]
    rfl
  have hrecord : Course.record ⟨g, []⟩ number = ⟨[], fun _ => [], [], []⟩ := by
    unfold Course.record written
    rw [hg]
    rfl
  rw [hphase, hrecord]
  exact kept_new g.exchange

theorem Sound.extend {course : Course} (h : Sound course number)
    (hbrings : Brings course.gateway o g' events) :
    Sound ⟨g', course.entries ++ [⟨course.gateway, o, g', events⟩]⟩ number := by
  refine ⟨h.apart.brings hbrings, ?_⟩
  have hkept := h.kept
  cases hown : o.own? number with
  | none =>
    rw [record_other hbrings hown, hbrings.phase_eq hown]
    apply hkept.queue
    · intro hnone
      rw [hnone]
      rfl
    · intro s hs
      rw [hs]
      exact hbrings.texts h.apart hown hs
  | some move =>
    obtain ⟨m, own⟩ := move
    obtain ⟨t, c, bus, ht, hpasses, rfl, rfl⟩ := hbrings.passes hown
    rw [record_own ht hown c bus]
    rw [phase_of_task ht] at hkept
    have hphase : ({ course.gateway.pass number c with bus := bus } : Gateway).phase number = c.phase :=
      phase_pass_self ht c
    rw [hphase]
    exact hkept.pass hpasses

theorem sound_of (hg : g.tasks = #[]) (occurrences : List Occurrence) (number : Nat) :
    Sound (Course.of g occurrences) number :=
  Course.of_keeps (P := (Sound · number)) (sound_start hg number)
    (fun _ _ _ _ h hhappen => h.extend (brings_of_happen hhappen)) occurrences

end Kept

/-! ## The law -/

section Law

variable {g : Gateway} {m : Moment} {number : Nat} {t : Task} {waiter : Shutdown.Waiter}
  {s : Session.Handle} {deadline : Option Int64} {message : Inbound} {isWritten : Bool}

/-- A connection that is served reads what comes. -/
theorem step_read (ht : g.tasks[number]? = some t) (hserving : t.phase = .serving waiter s deadline)
    (m : Moment) (message : Inbound) (isWritten : Bool) :
    ∃ c bus, Passes g m t.address (.serving waiter s deadline) (.read message isWritten) c ∧
      g.step m (.task number (.read message isWritten)) =
        some ({ g.pass number c with bus := bus }, c.events) := by
  obtain ⟨c, hpasses, hread⟩ : ∃ c, Passes g m t.address (.serving waiter s deadline)
        (.read message isWritten) c ∧
      g.read m number waiter s message isWritten = (g.pass number c, c.events) :=
    passes_read t.address message isWritten
  refine ⟨c, c.events.foldl (fun bus e => bus.publish m.eventId m.publishedAt e) g.bus, hpasses, ?_⟩
  have hmove : g.move m (.task number (.read message isWritten)) = some (g.pass number c, c.events) := by
    simp only [move, ht, Option.bind_some, stepTask, hserving]
    exact congrArg some hread
  rw [step, hmove]
  rfl

/-- Bytes that are a text are read like the text. -/
theorem step_read_binary (g : Gateway) (m : Moment) (number : Nat) {bytes : ByteArray} {text : String}
    (htext : String.fromUTF8? bytes = some text) (isWritten : Bool) :
    g.step m (.task number (.read (.binary bytes) isWritten)) =
      g.step m (.task number (.read (.text text) isWritten)) := by
  have hdemand : (Inbound.binary bytes).demand = (Inbound.text text).demand := by
    simp only [Inbound.demand, htext]
  have hread (waiter : Shutdown.Waiter) (s : Session.Handle) :
      g.read m number waiter s (.binary bytes) isWritten = g.read m number waiter s (.text text) isWritten := by
    unfold read
    rw [hdemand]
  simp only [step, move, stepTask, hread]

/-- Whatever the reply is, a connection is served on after it. -/
theorem serves_on (ht : g.tasks[number]? = some t) (hserving : t.phase = .serving waiter s deadline)
    {next : Int64} (hdeadline : Idle.deadline? m.clock g.config.ocpp.idleTimeout = some next)
    {id : String} (hreply : g.replyTo m id message ≠ []) :
    ∃ g' events, g.step m (.task number (.read message true)) = some (g', events) ∧
      g'.phase number = .serving waiter s (some next) := by
  obtain ⟨c, bus, hpasses, hstep⟩ := step_read ht hserving m message true
  refine ⟨_, _, hstep, (phase_pass_self ht c).trans ?_⟩
  cases hpasses with
  | breakDown hnone =>
    rw [hnone] at hdeadline
    cases hdeadline
  | answer hnext | refuse hnext =>
    rw [hnext] at hdeadline
    cases hdeadline
    rfl
  | echo _ hdemand => exact (hreply (replyTo_of_echo hdemand id).1).elim
  | leave _ hdemand => exact (hreply (replyTo_of_leave hdemand id).1).elim

/-- Bytes that are no text change nothing but what is written. -/
theorem refuses (ht : g.tasks[number]? = some t) (hserving : t.phase = .serving waiter s deadline)
    (hrefuse : message.demand = .refuse) :
    ∃ g', g.step m (.task number (.read message isWritten)) = some (g', []) ∧ g'.service = g.service := by
  obtain ⟨c, bus, hpasses, hstep⟩ := step_read ht hserving m message isWritten
  cases hpasses with
  | breakDown | refuse | failToRefuse => exact ⟨_, hstep, rfl⟩
  | answer _ hdemand | failToAnswer _ hdemand | echo _ hdemand | leave _ hdemand =>
    rw [hrefuse] at hdemand
    cases hdemand

/-- A refusal of bytes that are no text is read back as an error without a unique id. -/
theorem parse_notText :
    Frame.parse notText.serialize =
      .ok (.callError "" "FormationViolation" "Binary frame is not valid UTF-8" .empty) :=
  Frame.parse_serialize_of_nesting_le (Dispatcher.answers_error (by decide) _ _).nesting

/-- **What a connection writes is merged, in order, from its replies and from its queue.** Whatever
happens to a gateway that had no connections, for each of its tasks:

- a connection is opened for one charge point at most, and has written no text if it was opened for none;
- the texts of one that was opened for a charge point are merged from the first replies to what it has read and
  from the first texts that were queued for it, each in their order;
- while it is served, no reply is missing, and what is missing of the queue waits in its outbox;
- a message that is to be replied to, whatever the reply is, does not end the service, as long as the
  reply can be written and the deadline be computed;
- bytes that are a text are read like that text; other bytes are refused with an error and leave the
  service as it is. -/
theorem written_in_order (hg : g.tasks = #[]) (occurrences : List Occurrence)
    (ht : (Course.of g occurrences).gateway.tasks[number]? = some t) :
    let c := Course.of g occurrences
    let r := c.record number
    r.identities.length ≤ 1 ∧
      (r.identities = [] → texts t.written = []) ∧
      (∀ id ∈ r.identities, Flowed (r.replies id) r.queued (texts t.written)) ∧
      ∀ waiter s deadline, t.phase = .serving waiter s deadline →
        r.identities = [s.chargePointId] ∧
        Flowing (r.replies s.chargePointId) r.queued (c.gateway.exchange.outbox s.outbox).texts
          (texts t.written) ∧
        (∀ m message next, Idle.deadline? m.clock c.gateway.config.ocpp.idleTimeout = some next →
          c.gateway.replyTo m s.chargePointId message ≠ [] →
            ∃ g' events, c.gateway.step m (.task number (.read message true)) = some (g', events) ∧
              g'.phase number = .serving waiter s (some next)) ∧
        ∀ m bytes isWritten,
          (∀ text, String.fromUTF8? bytes = some text →
            c.gateway.step m (.task number (.read (.binary bytes) isWritten)) =
              c.gateway.step m (.task number (.read (.text text) isWritten))) ∧
          (String.fromUTF8? bytes = none →
            c.gateway.replyTo m s.chargePointId (.binary bytes) = [notText.serialize] ∧
            Frame.parse notText.serialize =
              .ok (.callError "" "FormationViolation" "Binary frame is not valid UTF-8" .empty) ∧
            ∃ g', c.gateway.step m (.task number (.read (.binary bytes) isWritten)) = some (g', []) ∧
              g'.service = c.gateway.service) := by
  intro c r
  have hkept : Kept c.gateway.exchange t.phase r := by
    rw [← phase_of_task ht]
    exact (sound_of hg occurrences number).kept
  have hwritten : r.written = texts t.written := congrArg texts (written_of_task ht)
  rw [← hwritten]
  refine ⟨hkept.once, fun hnone => hkept.silent (.inr hnone), hkept.flowed, ?_⟩
  intro waiter s deadline hserving
  rw [hserving] at hkept
  refine ⟨hkept.identities_eq _ rfl, hkept.flowing s rfl (Nat.le_refl 6), ?_, ?_⟩
  · intro m message next hdeadline hreply
    exact serves_on ht hserving hdeadline hreply
  · intro m bytes isWritten
    refine ⟨fun text htext => step_read_binary c.gateway m number htext isWritten, fun hnone => ?_⟩
    have hrefuse : (Inbound.binary bytes).demand = .refuse := by
      simp only [Inbound.demand, hnone]
    exact ⟨replyTo_of_refuse hrefuse _, parse_notText, refuses ht hserving hrefuse⟩

/-- What happens to a connection that reads bytes that are no text, a call, a ping, and the call once more
as bytes while the service fails. Of two texts that are queued for it one is forwarded in between. -/
def chat : List Occurrence :=
  let step (move : Move) : Occurrence := .step (.still .epoch 0 "") move
  let heartbeat := "[2,\"u1\",\"Heartbeat\",{}]"
  [step (.accept (.v4 ⟨192, 0, 2, 1⟩ 5000)),
    step (.task 0 .subscribe),
    step (.task 0 (.receiveRequest ⟨"/ws", some "id=CP-1"⟩ [])),
    step (.task 0 .drawId),
    step (.task 0 .insert),
    step (.task 0 .closeOld),
    step (.task 0 .beginService),
    step (.send "CP-1" "first"),
    step (.task 0 (.read (.binary ⟨#[255, 254]⟩) true)),
    .send ⟨"CP-1", 1, 0⟩ "second",
    step (.task 0 (.read (.text heartbeat) true)),
    step (.task 0 (.read (.ping ⟨#[]⟩) true)),
    step (.task 0 (.forward true)),
    .fault (some "out of memory"),
    step (.task 0 (.read (.binary heartbeat.toUTF8) true))]

/-- What has been written are three replies and the one text. The other waits. -/
theorem written_in_order_chat :
    (new {}).tasks = #[] ∧
      let c := Course.of (new {}) chat
      ∃ t waiter deadline, c.gateway.tasks[0]? = some t ∧
        t.phase = .serving waiter ⟨"CP-1", 1, 0⟩ deadline ∧
        ((c.record 0).replies "CP-1").length = 3 ∧
        Flowing ((c.record 0).replies "CP-1") ["first", "second"] ["second"] (texts t.written) := by
  refine ⟨rfl, ?_⟩
  intro c
  have hphase : c.gateway.tasks[0]?.map (·.phase) =
      some (.serving ⟨⟨0⟩, false⟩ ⟨"CP-1", 1, 0⟩ (some 300)) := by decide +kernel
  have hreplies : ((c.record 0).replies "CP-1").length = 3 := by decide +kernel
  have hqueued : (c.record 0).queued = ["first", "second"] := by decide +kernel
  have hwaiting : (c.gateway.exchange.outbox 0).texts = ["second"] := by decide +kernel
  obtain ⟨t, ht, hserving⟩ := Option.map_eq_some_iff.1 hphase
  obtain ⟨-, -, -, hserved⟩ := written_in_order (g := new {}) rfl chat ht
  obtain ⟨-, hflowing, -⟩ := hserved _ _ _ hserving
  rw [hqueued, hwaiting] at hflowing
  exact ⟨t, _, _, ht, hserving, hreplies, hflowing⟩

/-- What a charge point does wrong does not end its connection: the heartbeat at last gets its result. -/
example :
    let reads (text : String) : Occurrence := .step (.still .epoch 0 "") (.task 0 (.read (.text text) true))
    let c := Course.of (new {}) (chat.take 7 ++ [reads "not json", reads "[2,\"a-1\",\"Authorize\",{}]",
      reads "[3,\"r-1\",{}]", reads "[2,\"hb\",\"Heartbeat\",{}]"])
    (texts (c.gateway.written 0)).map (fun reply => (Frame.parse reply).toOption.map fun f =>
      (f.messageType, f.uniqueId)) =
        [some (.callError, ""), some (.callError, "a-1"), some (.callError, "r-1"),
          some (.callResult, "hb")] := by
  decide +kernel

end Law

end StationGateway.Gateway
