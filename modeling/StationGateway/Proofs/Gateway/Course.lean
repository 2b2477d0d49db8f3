import StationGateway.Proofs.Gateway.Orderly

/-!
# What happens to a gateway

The course of a gateway is all that happens to it from a start on: its steps, and besides them what others
do who hold a part of it. Whoever has looked up a session may keep the handle, and queue texts through it
or ask for the connection to be closed long after another session was registered. The service may begin to
fail, and work again.

`Brings` says what each occurrence leaves behind. A task that was not accepted yet is taken here for one
that has not begun (`Gateway.phase`, `Gateway.written`), so that a law about a task is a law about a number
and an occurrence is either a step of the task with the number or leaves it as it is.

`Apart` is the reason why connections do not get each other's texts: no two tasks have one outbox.
-/

namespace StationGateway.Gateway

/-- What happens to a gateway. -/
inductive Occurrence where
  | step (m : Moment) (move : Move)
  /-- Somebody who has kept a handle queues a text. -/
  | send (h : Session.Handle) (text : String)
  /-- Somebody who has kept a handle asks for the connection to be closed. -/
  | requestClose (h : Session.Handle)
  /-- The service fails from now on, or not any more. -/
  | fault (reason : Option String)

/-- The gateway after an occurrence, and the events that are published, if it is possible. -/
def Occurrence.happen (g : Gateway) : Occurrence → Option Outcome
  | .step m move => g.step m move
  | .send h text => some ({ g with exchange := (g.exchange.send h text).2 }, [])
  | .requestClose h => some ({ g with exchange := g.exchange.requestClose h }, [])
  | .fault reason => some ({ g with service := { g.service with fault := reason } }, [])

/-- The step that something is for a task, if it is one. -/
def Move.own? (number : Nat) : Move → Option Task.Move
  | .task n own => if n = number then some own else none
  | .accept _ | .collectTask | .wait | .stopListening | .listSessions _ | .takeOutNext | .closeTaken
  | .waitNoLonger | .finish | .raiseShutdown | .announceShutdown | .send _ _ | .requestClose _ => none

/-- The step that an occurrence is for a task, if it is one. -/
def Occurrence.own? (number : Nat) : Occurrence → Option (Moment × Task.Move)
  | .step m move => (move.own? number).map (m, ·)
  | .send _ _ | .requestClose _ | .fault _ => none

/-- One thing that happened, with the gateway before and after it, and the events that were published. -/
structure Entry where
  before : Gateway
  occurrence : Occurrence
  after : Gateway
  events : List Event

/-- A gateway, and all that has happened to it, the oldest first. -/
structure Course where
  gateway : Gateway
  entries : List Entry

namespace Course

/-- One thing more happens, if it is possible. -/
def extend (c : Course) (o : Occurrence) : Course :=
  match o.happen c.gateway with
  | some (g, events) => ⟨g, c.entries ++ [⟨c.gateway, o, g, events⟩]⟩
  | none => c

/-- What becomes of a gateway. What is not possible is left out. -/
def of (g : Gateway) (occurrences : List Occurrence) : Course :=
  occurrences.foldl extend ⟨g, []⟩

/-- What every occurrence keeps, every course keeps. -/
theorem of_keeps {P : Course → Prop} {g : Gateway} (hstart : P ⟨g, []⟩)
    (hextend : ∀ c o g' events, P c → o.happen c.gateway = some (g', events) →
      P ⟨g', c.entries ++ [⟨c.gateway, o, g', events⟩]⟩)
    (occurrences : List Occurrence) : P (of g occurrences) := by
  apply List.foldlRecOn occurrences extend
  · exact hstart
  · intro c hc o _
    unfold extend
    split
    · exact hextend c o _ _ hc ‹_›
    · exact hc

end Course

/-! ## What an occurrence leaves behind -/

/-- What an occurrence leaves behind, and the events that are published. -/
inductive Brings (g : Gateway) : Occurrence → Gateway → List Event → Prop
  | task {m number t own c} (bus : EventBus) (htask : g.tasks[number]? = some t)
      (hpasses : Passes g m t.address t.phase own c) :
      Brings g (.step m (.task number own)) { g.pass number c with bus := bus } c.events
  | turn {m move g'} (bus : EventBus) (hturns : Turns g move g') :
      Brings g (.step m move) { g' with bus := bus } []
  | send (h : Session.Handle) (text : String) :
      Brings g (.send h text) { g with exchange := (g.exchange.send h text).2 } []
  | requestClose (h : Session.Handle) :
      Brings g (.requestClose h) { g with exchange := g.exchange.requestClose h } []
  | fault (reason : Option String) :
      Brings g (.fault reason) { g with service := { g.service with fault := reason } } []

/-- The phase of the task with a number. -/
def phase (g : Gateway) (number : Nat) : Phase :=
  g.tasks[number]?.elim .accepted (·.phase)

/-- What the task with a number has written. -/
def written (g : Gateway) (number : Nat) : List Outbound :=
  g.tasks[number]?.elim [] (·.written)

section Brings

variable {g g' : Gateway} {o : Occurrence} {move : Move} {events : List Event} {m : Moment}
  {own : Task.Move} {number i : Nat} {t : Task} {c : Passage} {s : Session.Handle} {p : Phase}
  {address : SocketAddress}

theorem brings_of_happen (h : o.happen g = some (g', events)) : Brings g o g' events := by
  cases o with
  | step m move =>
    obtain ⟨done, bus, hhappens, rfl⟩ := happens_of_step h
    cases hhappens with
    | task htask hpasses => exact .task bus htask hpasses
    | turn hturns => exact .turn bus hturns
  | send h' text =>
    obtain ⟨rfl, rfl⟩ := Prod.mk.inj (Option.some.inj h)
    exact .send h' text
  | requestClose h' =>
    obtain ⟨rfl, rfl⟩ := Prod.mk.inj (Option.some.inj h)
    exact .requestClose h'
  | fault reason =>
    obtain ⟨rfl, rfl⟩ := Prod.mk.inj (Option.some.inj h)
    exact .fault reason

theorem phase_of_task (ht : g.tasks[number]? = some t) : g.phase number = t.phase := by
  unfold phase
  rw [ht]
  rfl

theorem written_of_task (ht : g.tasks[number]? = some t) : g.written number = t.written := by
  unfold written
  rw [ht]
  rfl

theorem phase_pass_self (ht : g.tasks[number]? = some t) (c : Passage) :
    (g.pass number c).phase number = c.phase :=
  phase_of_task (getElem?_pass_self ht c)

theorem phase_pass_of_ne (hne : number ≠ i) (c : Passage) : (g.pass number c).phase i = g.phase i := by
  unfold phase
  rw [getElem?_pass_of_ne hne]

theorem written_pass_self (ht : g.tasks[number]? = some t) (c : Passage) :
    (g.pass number c).written number = g.written number ++ c.written := by
  rw [written_of_task (getElem?_pass_self ht c), written_of_task ht]
  rfl

/-- What is read of the tasks stays, if of a task that has just come it is what is read of none. -/
theorem Turns.elim_tasks {α : Type} (h : Turns g move g') {a : α} {f : Task → α}
    (hnew : ∀ address, f ⟨address, .accepted, []⟩ = a) (i : Nat) :
    g'.tasks[i]?.elim a f = g.tasks[i]?.elim a f := by
  rcases h.tasks_eq with htasks | ⟨address, htasks⟩
  · rw [htasks]
  · rw [htasks, Array.getElem?_push]
    split
    · rename_i hi
      rw [hi, Array.getElem?_eq_none (Nat.le_refl _)]
      exact hnew address
    · rfl

theorem Turns.phase_eq (h : Turns g move g') (i : Nat) : g'.phase i = g.phase i :=
  h.elim_tasks (fun _ => rfl) i

theorem Turns.written_eq (h : Turns g move g') (i : Nat) : g'.written i = g.written i :=
  h.elim_tasks (fun _ => rfl) i

theorem Occurrence.own?_task (m : Moment) (number : Nat) (own : Task.Move) :
    (Occurrence.step m (.task number own)).own? number = some (m, own) := by
  simp [own?, Move.own?]

theorem Occurrence.own?_task_eq_none :
    (Occurrence.step m (.task number own)).own? i = none ↔ number ≠ i := by
  simp [own?, Move.own?]

/-- What is not a step of a task leaves it where it stands. -/
theorem Brings.phase_eq (h : Brings g o g' events) (hown : o.own? i = none) : g'.phase i = g.phase i := by
  cases h with
  | @task m number t own c => exact phase_pass_of_ne (Occurrence.own?_task_eq_none.1 hown) c
  | turn bus hturns => exact hturns.phase_eq i
  | send | requestClose | fault => rfl

/-- What is not a step of a task writes nothing on its connection. -/
theorem Brings.written_eq (h : Brings g o g' events) (hown : o.own? i = none) :
    g'.written i = g.written i := by
  cases h with
  | @task m number t own c =>
    show (g.pass number c).written i = _
    unfold written
    rw [getElem?_pass_of_ne (Occurrence.own?_task_eq_none.1 hown)]
  | turn bus hturns => exact hturns.written_eq i
  | send | requestClose | fault => rfl

/-- A step of a task is one of the things that it can do. -/
theorem Brings.passes (h : Brings g o g' events) (hown : o.own? i = some (m, own)) :
    ∃ t c bus, g.tasks[i]? = some t ∧ Passes g m t.address t.phase own c ∧
      g' = { g.pass i c with bus := bus } ∧ events = c.events := by
  cases h with
  | @task m' number t own' c bus htask hpasses =>
    obtain ⟨own'', hmove, hpair⟩ := Option.map_eq_some_iff.1 hown
    obtain ⟨rfl, rfl⟩ := Prod.mk.inj hpair
    obtain ⟨rfl, hsame⟩ := Option.ite_none_right_eq_some.1 hmove
    obtain rfl := Option.some.inj hsame
    exact ⟨t, c, bus, htask, hpasses, rfl, rfl⟩
  | turn bus hturns => cases hturns <;> cases hown
  | send | requestClose | fault => cases hown

/-! ## Each task has an outbox of its own -/

/-- The session of a task stays the same, or is a new one with the next outbox. -/
theorem Passes.session (h : Passes g m address p own c) (hs : c.phase.session? = some s) :
    p.session? = some s ∨
      s.outbox = g.exchange.outboxes.size ∧ c.exchange.outboxes.size = g.exchange.outboxes.size + 1 := by
  cases h with
  | insert hconnect hinsert =>
    obtain ⟨hsession, -, -, hboxes⟩ := Exchange.insert_connect hconnect hinsert
    obtain rfl := Option.some.inj hs
    refine .inr ⟨by rw [hsession], ?_⟩
    show Array.size _ = _
    rw [hboxes, Array.size_push]
  | _ => first | exact .inl hs | cases hs

/-- A step of a task leaves the texts alone that are queued for others. -/
theorem Passes.texts_of_ne {key : Nat} (h : Passes g m address p own c)
    (hkey : key < g.exchange.outboxes.size) (hne : ∀ s, p.session? = some s → s.outbox ≠ key) :
    (c.exchange.outbox key).texts = (g.exchange.outbox key).texts := by
  cases h with
  | drawId hdraw =>
    obtain ⟨-, rfl⟩ := Prod.mk.inj hdraw
    rfl
  | insert hconnect hinsert =>
    obtain ⟨-, -, -, hboxes⟩ := Exchange.insert_connect hconnect hinsert
    exact congrArg Outbox.texts (Exchange.outbox_push hkey hboxes)
  | @closeOld _ _ old =>
    cases old with
    | none => rfl
    | some old => exact g.exchange.texts_requestClose old key
  | forward hreceive | failToForward hreceive =>
    exact congrArg Outbox.texts (Exchange.outbox_receive_of_ne hreceive (hne _ rfl))
  | remove => exact congrArg Outbox.texts (Exchange.outbox_modify_of_ne (hne _ rfl) _)
  | _ => rfl

/-- What a step adds to an outbox from outside. -/
def Move.queued (g : Gateway) (key : Nat) : Move → List String
  | .send id text => (g.exchange.registry.lookup id).elim [] fun h => g.exchange.queued key h text
  | .task _ _ | .accept _ | .collectTask | .wait | .stopListening | .listSessions _ | .takeOutNext
  | .closeTaken | .waitNoLonger | .finish | .raiseShutdown | .announceShutdown | .requestClose _ => []

/-- What an occurrence adds to an outbox from outside. -/
def Occurrence.queued (g : Gateway) (key : Nat) : Occurrence → List String
  | .step _ move => move.queued g key
  | .send h text => g.exchange.queued key h text
  | .requestClose _ | .fault _ => []

theorem Turns.texts {key : Nat} (h : Turns g move g') :
    (g'.exchange.outbox key).texts = (g.exchange.outbox key).texts ++ move.queued g key := by
  cases h with
  | takeOutNext _ htake =>
    obtain ⟨-, rfl⟩ := Prod.mk.inj htake
    exact (List.append_nil _).symm
  | @closeTaken _ taken => exact (g.exchange.texts_requestClose taken key).trans (List.append_nil _).symm
  | @requestClose _ handle => exact (g.exchange.texts_requestClose handle key).trans (List.append_nil _).symm
  | send id text =>
    show ((g.exchange.sendTo id text).2.outbox key).texts =
      _ ++ (g.exchange.registry.lookup id).elim [] fun h => g.exchange.queued key h text
    unfold Exchange.sendTo
    cases g.exchange.registry.lookup id with
    | none => exact (List.append_nil _).symm
    | some h => exact g.exchange.texts_send h text key
  | _ => exact (List.append_nil _).symm

/-- No two tasks have one outbox. -/
structure Apart (g : Gateway) : Prop where
  below : ∀ (i : Nat) (s : Session.Handle), (g.phase i).session? = some s →
    s.outbox < g.exchange.outboxes.size
  eq_of_outbox : ∀ (i j : Nat) (s s' : Session.Handle), (g.phase i).session? = some s →
    (g.phase j).session? = some s' → s.outbox = s'.outbox → i = j

theorem apart_new (g : Gateway) (htasks : g.tasks = #[]) : g.Apart := by
  have hnone (i : Nat) : (g.phase i).session? = none := by
    unfold phase
    rw [htasks]
    rfl
  constructor
  · intro i s hs
    rw [hnone] at hs
    cases hs
  · intro i j s s' hs
    rw [hnone] at hs
    cases hs

/-- Where no task goes on and no outbox is made, tasks stay apart. -/
theorem Apart.congr (hg : g.Apart) (hphase : ∀ i, g'.phase i = g.phase i)
    (hsize : g'.exchange.outboxes.size = g.exchange.outboxes.size) : g'.Apart := by
  constructor
  · intro i s hs
    rw [hphase] at hs
    rw [hsize]
    exact hg.below i s hs
  · intro i j s s' hs hs'
    rw [hphase] at hs hs'
    exact hg.eq_of_outbox i j s s' hs hs'

theorem Apart.pass (hg : g.Apart) (ht : g.tasks[number]? = some t)
    (h : Passes g m t.address t.phase own c) : (g.pass number c).Apart := by
  have hself : (g.pass number c).phase number = c.phase := phase_pass_self ht c
  have hold {s : Session.Handle} (hs : t.phase.session? = some s) :
      (g.phase number).session? = some s := by
    rw [phase_of_task ht]
    exact hs
  have hnew {s : Session.Handle} (hs : c.phase.session? = some s) {i : Nat} (hi : number ≠ i)
      {s' : Session.Handle} (hs' : (g.phase i).session? = some s') : s.outbox ≠ s'.outbox := by
    intro heq
    rcases h.session hs with hsame | ⟨hnew, -⟩
    · exact hi (hg.eq_of_outbox number i s s' (hold hsame) hs' heq)
    · exact Nat.ne_of_lt (hg.below i s' hs') (heq.symm.trans hnew)
  constructor
  · intro i s hs
    show s.outbox < c.exchange.outboxes.size
    by_cases hi : number = i
    · subst hi
      rw [hself] at hs
      rcases h.session hs with hsame | ⟨hbox, hsize⟩
      · exact Nat.lt_of_lt_of_le (hg.below number s (hold hsame)) h.size_le
      · rw [hbox, hsize]
        exact Nat.lt_succ_self _
    · rw [phase_pass_of_ne hi] at hs
      exact Nat.lt_of_lt_of_le (hg.below i s hs) h.size_le
  · intro i j s s' hs hs' heq
    by_cases hi : number = i
    · by_cases hj : number = j
      · exact hi.symm.trans hj
      · subst hi
        rw [hself] at hs
        rw [phase_pass_of_ne hj] at hs'
        exact (hnew hs hj hs' heq).elim
    · rw [phase_pass_of_ne hi] at hs
      by_cases hj : number = j
      · subst hj
        rw [hself] at hs'
        exact (hnew hs' hi hs heq.symm).elim
      · rw [phase_pass_of_ne hj] at hs'
        exact hg.eq_of_outbox i j s s' hs hs' heq

theorem Apart.brings (hg : g.Apart) (h : Brings g o g' events) : g'.Apart := by
  cases h with
  | task bus htask hpasses => exact (hg.pass htask hpasses).congr (fun _ => rfl) rfl
  | turn bus hturns => exact hg.congr hturns.phase_eq hturns.size_eq
  | send h text => exact hg.congr (fun _ => rfl) (g.exchange.sameSessions_send h text).size_eq
  | requestClose h => exact hg.congr (fun _ => rfl) (g.exchange.sameSessions_modify ..).size_eq
  | fault => exact hg.congr (fun _ => rfl) rfl

/-- Unless a task takes a step of its own, the texts that are queued for it stay, and more may be queued
behind them. -/
theorem Brings.texts (h : Brings g o g' events) (hg : g.Apart) (hown : o.own? i = none)
    (hs : (g.phase i).session? = some s) :
    (g'.exchange.outbox s.outbox).texts =
      (g.exchange.outbox s.outbox).texts ++ o.queued g s.outbox := by
  cases h with
  | @task m number t own c bus htask hpasses =>
    have hne : number ≠ i := Occurrence.own?_task_eq_none.1 hown
    refine (hpasses.texts_of_ne (hg.below i s hs) fun other hother heq => hne ?_).trans
      (List.append_nil _).symm
    rw [← phase_of_task htask] at hother
    exact hg.eq_of_outbox number i other s hother hs heq
  | turn bus hturns => exact hturns.texts
  | send h text => exact g.exchange.texts_send h text s.outbox
  | requestClose h =>
    exact (g.exchange.texts_requestClose h s.outbox).trans (List.append_nil _).symm
  | fault => exact (List.append_nil _).symm

end Brings

end StationGateway.Gateway
