import StationGateway.Proofs.Session.Queue

/-!
# Texts on their way to connections

Texts for a connection can be sent by whoever has a handle of it: the registry, the connection itself as
long as nobody has registered it, and everybody who has kept a handle. Here all of these are used, one
operation after another, and a note is made of each text that a connection was sent with success, of each
text that it received, and of each connection that takes no more texts because its receiver was dropped.

**The law** (`Outgoing.received_of_accepted`): a connection receives the texts that it was sent with success,
in their order, each once; while its receiver is there, those that it has not received yet are queued. What a
sender is told, and whose queue grows, depends on nothing but who is registered, whose handle it is, and
whose receivers were dropped; and a connection finds the end of its texts exactly when it has received all of
them and nobody can send it any more.

Connections are numbered as they are made. Their connection ids are whatever the callers say, and may repeat.
-/

namespace StationGateway

/-! ## Using connections -/

/-- Who has a handle beside the registry: a connection that is not registered, under its own number, or
whoever has kept a handle, under the number of the handle. -/
inductive Outgoing.Holder where
  | loose (connection : Nat)
  | kept (number : Nat)
deriving DecidableEq

/-- What is done with connections, with the registry, or with handles. What is not there is not used. -/
inductive Outgoing.Operation where
  /-- A connection is made. -/
  | connect (chargePointId : String) (connectionId : UInt64) (remoteAddress : Option SocketAddress)
      (now : Timestamp)
  /-- A connection is registered, in the place of another of its charge point if there is one. -/
  | add (connection : Nat)
  /-- A connection that is not registered is dropped. -/
  | discard (connection : Nat)
  | remove (chargePointId : String) (connectionId : UInt64)
  | touch (chargePointId : String) (connectionId : UInt64) (now : Timestamp)
  | closeAll
  /-- A handle is looked up, and kept. -/
  | keep (chargePointId : String)
  /-- A copy of a handle is kept. -/
  | copy (holder : Outgoing.Holder)
  /-- A handle that was kept is dropped. -/
  | drop (number : Nat)
  | sendTo (chargePointId text : String)
  | send (holder : Outgoing.Holder) (text : String)
  | requestClose (holder : Outgoing.Holder)
  | takeClose (connection : Nat)
  | receive (connection : Nat)
  /-- The receiver of a connection is dropped. -/
  | shut (connection : Nat)

/-- The connections, who has handles of them, and what was noted so far. -/
structure Outgoing where
  exchange : Exchange
  /-- The handles that the connections were made with. -/
  connections : List Session.Handle
  /-- The connections that are not registered, each in its place among all. -/
  loose : List (Option Session)
  /-- The handles that were kept; those that were dropped have left their places empty. -/
  kept : List (Option Session.Handle)
  /-- The texts that were sent with success, each with the number of the connection that it was sent to,
  the oldest first. -/
  accepted : List (Nat × String)
  /-- The texts that were received, each with the number of the connection, the oldest first. -/
  received : List (Nat × String)
  /-- The connections whose receivers were dropped. -/
  dropped : List Nat

namespace Outgoing

/-- The texts of one connection. -/
def textsOf (connection : Nat) (texts : List (Nat × String)) : List String :=
  texts.filterMap fun (number, text) => if number = connection then some text else none

/-- The handle that somebody has. -/
def handle? (o : Outgoing) : Holder → Option Session.Handle
  | .loose connection => o.loose[connection]?.join.map (·.toHandle)
  | .kept number => o.kept[number]?.join

/-- A handle is kept. -/
def keepHandle (o : Outgoing) (h : Session.Handle) : Outgoing :=
  { o with exchange := o.exchange.hold h.outbox, kept := o.kept ++ [some h] }

/-- A text was sent to a connection, perhaps with success. -/
def note (o : Outgoing) (h : Session.Handle) (text : String)
    (outcome : Except SessionError Unit × Exchange) : Outgoing :=
  { o with
    exchange := outcome.2
    accepted := o.accepted ++ if outcome.1.isOk then [(h.outbox, text)] else [] }

/-- One operation more. A text for a charge point is noted for the session that is registered. -/
def extend (o : Outgoing) : Operation → Outgoing
  | .connect id connectionId remoteAddress now =>
    let (s, x) := o.exchange.connect id connectionId remoteAddress now
    { o with
      exchange := x.hold s.outbox
      connections := o.connections ++ [s.toHandle]
      loose := o.loose ++ [some s] }
  | .add connection =>
    o.loose[connection]?.join.elim o fun s =>
      { o with exchange := (o.exchange.add s).2.release s.outbox, loose := o.loose.set connection none }
  | .discard connection =>
    o.loose[connection]?.join.elim o fun s =>
      { o with exchange := o.exchange.release s.outbox, loose := o.loose.set connection none }
  | .remove id connectionId => { o with exchange := (o.exchange.remove id connectionId).2 }
  | .touch id connectionId now => { o with exchange := (o.exchange.touch id connectionId now).2 }
  | .closeAll => { o with exchange := o.exchange.closeAll.2 }
  | .keep id => (o.exchange.registry.lookup id).elim o o.keepHandle
  | .copy holder => (o.handle? holder).elim o o.keepHandle
  | .drop number =>
    o.kept[number]?.join.elim o fun h =>
      { o with exchange := o.exchange.release h.outbox, kept := o.kept.set number none }
  | .sendTo id text =>
    o.exchange.registry.sessions[id]?.elim { o with exchange := (o.exchange.sendTo id text).2 } fun s =>
      o.note s.toHandle text (o.exchange.sendTo id text)
  | .send holder text => (o.handle? holder).elim o fun h => o.note h text (o.exchange.send h text)
  | .requestClose holder =>
    (o.handle? holder).elim o fun h => { o with exchange := o.exchange.requestClose h }
  | .takeClose connection => { o with exchange := (o.exchange.takeClose connection).2 }
  | .receive connection =>
    match o.exchange.receive connection with
    | (.text text, x) => { o with exchange := x, received := o.received ++ [(connection, text)] }
    | (_, x) => { o with exchange := x }
  | .shut connection =>
    if connection < o.connections.length then
      { o with exchange := o.exchange.shut connection, dropped := connection :: o.dropped }
    else o

/-- What operations make of a registry without sessions, when there are no connections. -/
def of (operations : List Operation) : Outgoing :=
  operations.foldl extend ⟨.empty, [], [], [], [], [], []⟩

/-- A handle is that of a connection that was made. -/
def Made (connections : List Session.Handle) (h : Session.Handle) : Prop :=
  connections[h.outbox]? = some h

/-- Somebody can send texts to a connection: it is registered, or somebody has a handle of it. -/
def HasSender (o : Outgoing) (connection : Nat) : Prop :=
  (∃ (id : String) (s : Session), o.exchange.registry.sessions[id]? = some s ∧ s.outbox = connection) ∨
    ∃ holder h, o.handle? holder = some h ∧ h.outbox = connection

/-! ## Who has handles -/

/-- The outboxes that are held, by connections that are not registered and by handles that were kept. -/
def holdings (loose : List (Option Session)) (kept : List (Option Session.Handle)) : List Nat :=
  (loose.filterMap id).map (·.outbox) ++ (kept.filterMap id).map (·.outbox)

/-- What holds of handles after all operations: whoever has a handle has that of a connection that was made,
and the exchange counts everybody who has one beside the registry. -/
structure Held (x : Exchange) (connections : List Session.Handle) (loose : List (Option Session))
    (kept : List (Option Session.Handle)) : Prop where
  size : x.outboxes.size = connections.length
  numbered : ∀ (connection : Nat) (h : Session.Handle),
    connections[connection]? = some h → h.outbox = connection
  registered : x.registry.Within (Made connections)
  places : loose.length = connections.length
  of_loose : ∀ (connection : Nat) (s : Session), loose[connection]? = some (some s) →
    s.outbox = connection ∧ Made connections s.toHandle
  of_kept : ∀ (number : Nat) (h : Session.Handle), kept[number]? = some (some h) → Made connections h
  holds : x.holds.Perm (holdings loose kept)

/-- An element that is taken out of its place is missing from the rest. -/
theorem perm_set_none {α : Type} {l : List (Option α)} {i : Nat} {a : α} (h : l[i]? = some (some a)) :
    (l.filterMap id).Perm (a :: (l.set i none).filterMap id) := by
  induction l generalizing i with
  | nil => cases h
  | cons b l ih =>
    cases i with
    | zero =>
      obtain rfl : b = some a := Option.some.inj h
      exact .refl _
    | succ i =>
      have hrest := ih (i := i) h
      cases b with
      | none => exact hrest
      | some b => exact (hrest.cons b).trans (.swap a b _)

/-- What stands in a list that has grown stood there before or is the last. -/
theorem getElem?_concat {α : Type} {l : List α} {i : Nat} {a b : α} (h : (l ++ [a])[i]? = some b) :
    l[i]? = some b ∨ i = l.length ∧ b = a := by
  rw [List.getElem?_append] at h
  split at h
  · exact .inl h
  · next hle =>
    obtain ⟨hlt, hb⟩ := List.getElem?_eq_some_iff.mp h
    rw [List.length_singleton] at hlt
    exact .inr ⟨by omega, by simpa using hb.symm⟩

/-- Nothing that was put in an empty place is anywhere else. -/
theorem getElem?_set_none {α : Type} {l : List (Option α)} {i j : Nat} {a : α}
    (h : (l.set i none)[j]? = some (some a)) : l[j]? = some (some a) := by
  rw [List.getElem?_set] at h
  split at h
  · split at h <;> cases h
  · exact h

section Held

variable {x y : Exchange} {connections : List Session.Handle} {loose : List (Option Session)}
  {kept : List (Option Session.Handle)}

theorem held_new : Held .empty [] [] [] where
  size := rfl
  numbered _ _ h := by cases h
  registered := Registry.within_empty _
  places := rfl
  of_loose _ _ h := by cases h
  of_kept _ _ h := by cases h
  holds := .refl _

/-- What changes no holds keeps this, if every session that is registered then was made. -/
theorem Held.congr (hx : Held x connections loose kept) (hholds : y.holds = x.holds)
    (hsize : y.outboxes.size = x.outboxes.size) (hregistered : y.registry.Within (Made connections)) :
    Held y connections loose kept :=
  { hx with
    size := hsize.trans hx.size
    registered := hregistered
    holds := hholds ▸ hx.holds }

/-- A connection that is made is the next, and is held. -/
theorem Held.connect (hx : Held x connections loose kept) {s : Session}
    (hbox : s.outbox = x.outboxes.size) (hy : y.outboxes = x.outboxes.push {})
    (hregistry : y.registry = x.registry) (hholds : y.holds = x.holds) :
    Held (y.hold s.outbox) (connections ++ [s.toHandle]) (loose ++ [some s]) kept := by
  have hnumber : s.outbox = connections.length := hbox.trans hx.size
  have hmade (h : Session.Handle) (hh : Made connections h) : Made (connections ++ [s.toHandle]) h := by
    obtain ⟨hlt, -⟩ := List.getElem?_eq_some_iff.mp hh
    rw [Made, List.getElem?_append_left hlt]
    exact hh
  have hself : Made (connections ++ [s.toHandle]) s.toHandle := by
    show (connections ++ [s.toHandle])[s.outbox]? = _
    rw [hnumber, List.getElem?_concat_length]
  refine ⟨?_, fun c h hc => ?_, ?_, ?_, fun c t hc => ?_, fun n h hn => hmade h (hx.of_kept n h hn), ?_⟩
  · show y.outboxes.size = _
    rw [hy, Array.size_push, hx.size, List.length_append, List.length_singleton]
  · rcases getElem?_concat hc with hc | ⟨rfl, rfl⟩
    · exact hx.numbered c h hc
    · exact hnumber
  · show y.registry.Within _
    rw [hregistry]
    exact hx.registered.mono hmade
  · rw [List.length_append, List.length_append, hx.places]
    rfl
  · rcases getElem?_concat hc with hc | ⟨rfl, heq⟩
    · exact (hx.of_loose c t hc).imp_right (hmade _)
    · obtain rfl := Option.some.inj heq
      exact ⟨hnumber.trans hx.places.symm, hself⟩
  · have hholdings : holdings (loose ++ [some s]) kept =
        (loose.filterMap id).map (·.outbox) ++ s.outbox :: (kept.filterMap id).map (·.outbox) := by
      simp [holdings]
    show (s.outbox :: y.holds).Perm _
    rw [hholds, hholdings]
    exact (hx.holds.cons s.outbox).trans List.perm_middle.symm

/-- A connection leaves its place: one hold less. -/
theorem Held.release_loose (hx : Held x connections loose kept) {connection : Nat} {s : Session}
    (hs : loose[connection]? = some (some s)) (hholds : y.holds = x.holds)
    (hsize : y.outboxes.size = x.outboxes.size) (hregistered : y.registry.Within (Made connections)) :
    Held (y.release s.outbox) connections (loose.set connection none) kept := by
  refine ⟨hsize.trans hx.size, hx.numbered, hregistered, ?_, fun c t hc => ?_, hx.of_kept, ?_⟩
  · rw [List.length_set, hx.places]
  · exact hx.of_loose c t (getElem?_set_none hc)
  · have hrest : x.holds.Perm (s.outbox :: holdings (loose.set connection none) kept) :=
      hx.holds.trans (((perm_set_none hs).map _).append_right _)
    have herase := hrest.erase s.outbox
    rw [List.erase_cons_head] at herase
    show (y.holds.erase s.outbox).Perm _
    rw [hholds]
    exact herase

/-- A handle is dropped: one hold less. -/
theorem Held.release_kept (hx : Held x connections loose kept) {number : Nat} {h : Session.Handle}
    (hh : kept[number]? = some (some h)) :
    Held (x.release h.outbox) connections loose (kept.set number none) := by
  refine ⟨hx.size, hx.numbered, hx.registered, hx.places, hx.of_loose, fun n k hn => ?_, ?_⟩
  · exact hx.of_kept n k (getElem?_set_none hn)
  · have hrest : x.holds.Perm (h.outbox :: holdings loose (kept.set number none)) :=
      (hx.holds.trans (((perm_set_none hh).map _).append_left _)).trans List.perm_middle
    have herase := hrest.erase h.outbox
    rw [List.erase_cons_head] at herase
    exact herase

/-- A handle is kept: one hold more. -/
theorem Held.hold (hx : Held x connections loose kept) {h : Session.Handle} (hh : Made connections h) :
    Held (x.hold h.outbox) connections loose (kept ++ [some h]) := by
  refine ⟨hx.size, hx.numbered, hx.registered, hx.places, hx.of_loose, fun n k hn => ?_, ?_⟩
  · rcases getElem?_concat hn with hn | ⟨-, heq⟩
    · exact hx.of_kept n k hn
    · obtain rfl := Option.some.inj heq
      exact hh
  · have hholdings : holdings loose (kept ++ [some h]) = holdings loose kept ++ [h.outbox] := by
      simp [holdings]
    show (h.outbox :: x.holds).Perm _
    rw [hholdings]
    exact (hx.holds.cons h.outbox).trans (List.perm_append_singleton h.outbox _).symm

end Held

/-! ## What is queued -/

theorem textsOf_append (connection : Nat) (texts more : List (Nat × String)) :
    textsOf connection (texts ++ more) = textsOf connection texts ++ textsOf connection more :=
  List.filterMap_append

theorem textsOf_singleton (connection number : Nat) (text : String) :
    textsOf connection [(number, text)] = if number = connection then [text] else [] := by
  unfold textsOf
  split
  · next h => simp [h]
  · next h => simp [h]

/-- What holds of texts after all operations: the outboxes that take texts are those of the connections whose
receivers are there, and these have in them what was accepted and not received. -/
structure Queued (x : Exchange) (accepted received : List (Nat × String)) (dropped : List Nat) : Prop where
  below : ∀ connection ∈ dropped, connection < x.outboxes.size
  isOpen_iff : ∀ connection, (x.outbox connection).isOpen = true ↔
    connection < x.outboxes.size ∧ connection ∉ dropped
  queued : ∀ connection, connection ∉ dropped →
    textsOf connection accepted = textsOf connection received ++ (x.outbox connection).texts
  lost : ∀ connection ∈ dropped, (x.outbox connection).texts = [] ∧
    textsOf connection received <+: textsOf connection accepted

section Queued

variable {x y : Exchange} {accepted received : List (Nat × String)} {dropped : List Nat}

theorem queued_new : Queued .empty [] [] [] where
  below _ h := by cases h
  isOpen_iff connection := by
    refine iff_of_false ?_ fun h => absurd h.1 (Nat.not_lt_zero _)
    exact Bool.false_ne_true
  queued _ _ := rfl
  lost _ h := by cases h

theorem Queued.congr (hx : Queued x accepted received dropped) (hsize : y.outboxes.size = x.outboxes.size)
    (htexts : ∀ key, (y.outbox key).texts = (x.outbox key).texts)
    (hopen : ∀ key, (y.outbox key).isOpen = (x.outbox key).isOpen) :
    Queued y accepted received dropped where
  below := hsize ▸ hx.below
  isOpen_iff connection := by rw [hopen, hsize, hx.isOpen_iff]
  queued connection h := by rw [htexts, hx.queued connection h]
  lost connection h := by rw [htexts]; exact hx.lost connection h

theorem Queued.quiet (hx : Queued x accepted received dropped) (h : x.Quiet y) :
    Queued y accepted received dropped :=
  hx.congr h.size h.texts h.isOpen

/-- A connection that is made has an empty queue. -/
theorem Queued.connect (hx : Queued x accepted received dropped) (hy : y.outboxes = x.outboxes.push {}) :
    Queued y accepted received dropped := by
  have hbox (key : Nat) : y.outbox key = if key = x.outboxes.size then {} else x.outbox key := by
    unfold Exchange.outbox
    rw [hy, Array.getElem?_push]
    split <;> rfl
  have hnew : (x.outbox x.outboxes.size).texts = [] := by
    rw [Exchange.outbox, Array.getElem?_eq_none (Nat.le_refl _)]
    rfl
  have htexts (key : Nat) : (y.outbox key).texts = (x.outbox key).texts := by
    rw [hbox]
    split
    · next h => rw [h, hnew]
    · rfl
  have hsize : y.outboxes.size = x.outboxes.size + 1 := by rw [hy, Array.size_push]
  refine ⟨fun c hc => ?_, fun c => ?_, fun c hc => ?_, fun c hc => ?_⟩
  · have hlt := hx.below c hc
    omega
  · rw [hbox, hsize]
    split
    · next h =>
      have hnew : c ∉ dropped := fun hc => absurd (hx.below c hc) (by omega)
      exact iff_of_true rfl ⟨by omega, hnew⟩
    · next h =>
      rw [hx.isOpen_iff]
      exact and_congr_left fun _ => by omega
  · rw [htexts, hx.queued c hc]
  · rw [htexts]
    exact hx.lost c hc

/-- A text that is sent through a handle is queued for its connection, or not at all. -/
theorem Queued.send (hx : Queued x accepted received dropped) (h : Session.Handle) (text : String) :
    Queued (x.send h text).2
      (accepted ++ if (x.send h text).1.isOk then [(h.outbox, text)] else []) received dropped := by
  have hnoted (c : Nat) : textsOf c (accepted ++ if (x.send h text).1.isOk then [(h.outbox, text)] else []) =
      textsOf c accepted ++ x.queued c h text := by
    rw [textsOf_append, Exchange.queued]
    congr 1
    by_cases hok : (x.send h text).1.isOk = true
    · simp [hok, textsOf_singleton]
    · simp [hok, textsOf]
  have hsize := (x.sameSessions_send h text).size_eq
  refine ⟨hsize ▸ hx.below, fun c => ?_, fun c hc => ?_, fun c hc => ?_⟩
  · rw [Exchange.isOpen_send, hsize, hx.isOpen_iff]
  · rw [hnoted, Exchange.texts_send, hx.queued c hc, List.append_assoc]
  · have hclosed : x.queued c h text = [] := by
      refine if_neg ?_
      rintro ⟨rfl, hok⟩
      rw [Exchange.isOk_send, hx.isOpen_iff] at hok
      exact hok.2 hc
    rw [hnoted, Exchange.texts_send, hclosed, List.append_nil, List.append_nil]
    exact hx.lost c hc

/-- A text that is received was the oldest in the queue. -/
theorem Queued.receive (hx : Queued x accepted received dropped) {connection : Nat} {text : String}
    (h : x.receive connection = (.text text, y)) :
    Queued y accepted (received ++ [(connection, text)]) dropped := by
  have hsize := (Exchange.sameSessions_receive h).size_eq
  have hqueue := Exchange.texts_receive h
  refine ⟨hsize ▸ hx.below, fun c => ?_, fun c hc => ?_, fun c hc => ?_⟩
  · rw [Exchange.isOpen_receive h, hsize, hx.isOpen_iff]
  · rw [textsOf_append, textsOf_singleton, hx.queued c hc]
    by_cases heq : connection = c
    · subst heq
      rw [if_pos rfl, hqueue, List.append_assoc]
      rfl
    · rw [if_neg heq, List.append_nil, Exchange.outbox_receive_of_ne h heq]
  · obtain ⟨hempty, hprefix⟩ := hx.lost c hc
    have hne : connection ≠ c := by
      rintro rfl
      rw [hempty] at hqueue
      cases hqueue
    rw [Exchange.outbox_receive_of_ne h hne, textsOf_append, textsOf_singleton, if_neg hne, List.append_nil]
    exact ⟨hempty, hprefix⟩

/-- What was received is the beginning of what was accepted. -/
theorem Queued.isPrefix (hx : Queued x accepted received dropped) (connection : Nat) :
    textsOf connection received <+: textsOf connection accepted := by
  by_cases hdropped : connection ∈ dropped
  · exact (hx.lost connection hdropped).2
  · exact ⟨_, (hx.queued connection hdropped).symm⟩

/-- A receiver that is dropped loses what is queued, and no more is accepted for it. -/
theorem Queued.shut (hx : Queued x accepted received dropped) {connection : Nat}
    (hconnection : connection < x.outboxes.size) :
    Queued (x.shut connection) accepted received (connection :: dropped) := by
  have hbox (c : Nat) : (x.shut connection).outbox c =
      if connection = c then (x.outbox c).shut else x.outbox c :=
    Exchange.outbox_modify hconnection _ c
  have hsize : (x.shut connection).outboxes.size = x.outboxes.size := Array.size_modify
  refine ⟨fun c hc => ?_, fun c => ?_, fun c hc => ?_, fun c hc => ?_⟩
  · rw [hsize]
    rcases List.mem_cons.mp hc with rfl | hc
    · exact hconnection
    · exact hx.below c hc
  · rw [hbox, hsize, List.mem_cons, not_or]
    split
    · next heq => exact iff_of_false Bool.false_ne_true fun h => h.2.1 heq.symm
    · next hne =>
      rw [hx.isOpen_iff]
      exact and_congr_right fun _ => (and_iff_right (Ne.symm hne)).symm
  · obtain ⟨hne, hc⟩ := not_or.mp (mt List.mem_cons.mpr hc)
    rw [hbox, if_neg (Ne.symm hne), hx.queued c hc]
  · refine ⟨?_, hx.isPrefix c⟩
    rw [hbox]
    split
    · rfl
    · next hne =>
      have hc := (List.mem_cons.mp hc).resolve_left (Ne.symm hne)
      exact (hx.lost c hc).1

end Queued

/-! ## Every operation -/

/-- What holds after all operations. -/
structure Sound (o : Outgoing) : Prop where
  held : Held o.exchange o.connections o.loose o.kept
  queued : Queued o.exchange o.accepted o.received o.dropped

section Steps

variable {o : Outgoing} {h : Session.Handle}

theorem sound_new : Sound ⟨.empty, [], [], [], [], [], []⟩ :=
  ⟨held_new, queued_new⟩

/-- Whoever has a handle has that of a connection that was made. -/
theorem Sound.made (hs : o.Sound) {holder : Holder} (hh : o.handle? holder = some h) :
    Made o.connections h := by
  cases holder with
  | loose connection =>
    obtain ⟨s, hplace, rfl⟩ := Option.map_eq_some_iff.mp hh
    exact (hs.held.of_loose connection s (Option.join_eq_some_iff.mp hplace)).2
  | kept number => exact hs.held.of_kept number h (Option.join_eq_some_iff.mp hh)

/-- What moves no texts and lets nobody go keeps all, if every session that is registered then was made. -/
theorem Sound.quiet (hs : o.Sound) {y : Exchange} (hy : o.exchange.Quiet y)
    (hregistered : y.registry.Within (Made o.connections)) : Sound { o with exchange := y } :=
  ⟨hs.held.congr hy.holds hy.size hregistered, hs.queued.quiet hy⟩

theorem Sound.keepHandle (hs : o.Sound) (hh : Made o.connections h) : (o.keepHandle h).Sound :=
  ⟨hs.held.hold hh, hs.queued.congr rfl (fun _ => rfl) fun _ => rfl⟩

theorem Sound.note (hs : o.Sound) (h : Session.Handle) (text : String) :
    (o.note h text (o.exchange.send h text)).Sound := by
  have hsame := o.exchange.sameSessions_send h text
  refine ⟨hs.held.congr (o.exchange.holds_send h text) hsame.size_eq ?_, hs.queued.send h text⟩
  show (o.exchange.send h text).2.registry.Within _
  rw [hsame.registry_eq]
  exact hs.held.registered

theorem Sound.add (hs : o.Sound) {connection : Nat} {s : Session}
    (hplace : o.loose[connection]? = some (some s)) :
    Sound { o with
      exchange := (o.exchange.add s).2.release s.outbox, loose := o.loose.set connection none } := by
  have hquiet := o.exchange.quiet_add s
  have hregistered : (o.exchange.add s).2.registry.Within (Made o.connections) := by
    rw [Exchange.registry_add]
    exact hs.held.registered.insert s (hs.held.of_loose connection s hplace).2 fun _ hh => hh
  exact ⟨hs.held.release_loose hplace hquiet.holds hquiet.size hregistered,
    (hs.queued.quiet hquiet).congr rfl (fun _ => rfl) fun _ => rfl⟩

theorem Sound.receive (hs : o.Sound) (connection : Nat) : (o.extend (.receive connection)).Sound := by
  simp only [extend]
  cases hreceive : o.exchange.receive connection with
  | mk reception y =>
    have hsame := Exchange.sameSessions_receive hreceive
    have hheld : Held y o.connections o.loose o.kept := by
      refine hs.held.congr (Exchange.holds_receive hreceive) hsame.size_eq ?_
      rw [hsame.registry_eq]
      exact hs.held.registered
    obtain ⟨text, texts, -, rfl, -⟩ | ⟨hnone, rfl⟩ := Exchange.receive_cases hreceive
    · exact ⟨hheld, hs.queued.receive hreceive⟩
    · cases reception with
      | text text => exact absurd rfl (hnone text)
      | pending | ended => exact ⟨hheld, hs.queued⟩

theorem Sound.extend (hs : o.Sound) (operation : Operation) : (o.extend operation).Sound := by
  have hregistered := hs.held.registered
  cases operation with
  | connect id connectionId remoteAddress now =>
    have hqueued : Queued (o.exchange.connect id connectionId remoteAddress now).2 o.accepted o.received
        o.dropped := hs.queued.connect rfl
    exact ⟨hs.held.connect rfl rfl rfl rfl, hqueued.congr rfl (fun _ => rfl) fun _ => rfl⟩
  | add connection =>
    simp only [Outgoing.extend]
    cases hplace : o.loose[connection]?.join with
    | none => exact hs
    | some s => exact hs.add (Option.join_eq_some_iff.mp hplace)
  | discard connection =>
    simp only [Outgoing.extend]
    cases hplace : o.loose[connection]?.join with
    | none => exact hs
    | some s =>
      exact ⟨hs.held.release_loose (Option.join_eq_some_iff.mp hplace) rfl rfl hregistered,
        hs.queued.congr rfl (fun _ => rfl) fun _ => rfl⟩
  | remove id connectionId =>
    exact hs.quiet (Exchange.quiet_of_outboxes rfl rfl) (hregistered.remove_any id connectionId)
  | touch id connectionId now =>
    exact hs.quiet (Exchange.quiet_of_outboxes rfl rfl) (hregistered.touch id connectionId now)
  | closeAll =>
    exact hs.quiet (o.exchange.quiet_closeEach _)
      (Registry.within_of_sessions_eq_empty o.exchange.sessions_closeAll)
  | keep id =>
    simp only [Outgoing.extend]
    cases hlookup : o.exchange.registry.lookup id with
    | none => exact hs
    | some h => exact hs.keepHandle (hregistered id h hlookup).2
  | copy holder =>
    simp only [Outgoing.extend]
    cases hh : o.handle? holder with
    | none => exact hs
    | some h => exact hs.keepHandle (hs.made hh)
  | drop number =>
    simp only [Outgoing.extend]
    cases hplace : o.kept[number]?.join with
    | none => exact hs
    | some h =>
      exact ⟨hs.held.release_kept (Option.join_eq_some_iff.mp hplace),
        hs.queued.congr rfl (fun _ => rfl) fun _ => rfl⟩
  | sendTo id text =>
    simp only [Outgoing.extend]
    cases hsession : o.exchange.registry.sessions[id]? with
    | none =>
      rw [Exchange.sendTo_of_none hsession]
      exact hs
    | some s =>
      rw [Exchange.sendTo_of_some hsession]
      exact hs.note s.toHandle text
  | send holder text =>
    simp only [Outgoing.extend]
    cases hh : o.handle? holder with
    | none => exact hs
    | some h => exact hs.note h text
  | requestClose holder =>
    simp only [Outgoing.extend]
    cases hh : o.handle? holder with
    | none => exact hs
    | some h => exact hs.quiet (o.exchange.quiet_requestClose h) hregistered
  | takeClose connection => exact hs.quiet (o.exchange.quiet_takeClose connection) hregistered
  | receive connection => exact hs.receive connection
  | shut connection =>
    simp only [Outgoing.extend]
    split
    · next hconnection =>
      exact ⟨hs.held.congr rfl Array.size_modify hregistered,
        hs.queued.shut (hs.held.size ▸ hconnection)⟩
    · exact hs

theorem sound_of (operations : List Operation) : (of operations).Sound := by
  apply List.foldlRecOn operations Outgoing.extend
  · exact sound_new
  · intro o hs operation _
    exact hs.extend operation

end Steps

/-! ## The law -/

/-- A sending through a handle reaches the connection of the handle: it fails exactly if the receiver was
dropped, and changes nothing then; else the text is behind those that are queued for the connection, and no
other queue changes. -/
structure Reaches (o : Outgoing) (h : Session.Handle) (text : String)
    (outcome : Except SessionError Unit × Exchange) : Prop where
  told : outcome.1 = if h.outbox ∈ o.dropped then .error (.channelClosed h.chargePointId) else .ok ()
  failed : h.outbox ∈ o.dropped → outcome.2 = o.exchange
  queued : h.outbox ∉ o.dropped → ∀ connection, (outcome.2.outbox connection).texts =
    (o.exchange.outbox connection).texts ++ if connection = h.outbox then [text] else []

section Law

variable {o : Outgoing} {h : Session.Handle}

theorem Sound.isOpen_iff (hs : o.Sound) (hh : Made o.connections h) :
    (o.exchange.outbox h.outbox).isOpen = true ↔ h.outbox ∉ o.dropped := by
  rw [hs.queued.isOpen_iff, hs.held.size]
  exact and_iff_right (List.getElem?_eq_some_iff.mp hh).1

theorem Sound.reaches (hs : o.Sound) (hh : Made o.connections h) (text : String) :
    o.Reaches h text (o.exchange.send h text) := by
  by_cases hdropped : h.outbox ∈ o.dropped
  · have hclosed : (o.exchange.outbox h.outbox).push? text = none := by
      rw [Outbox.push?, if_neg]
      exact fun hopen => (hs.isOpen_iff hh).mp hopen hdropped
    have hsend : o.exchange.send h text = (.error (.channelClosed h.chargePointId), o.exchange) := by
      rw [Exchange.send, hclosed]
    rw [hsend]
    exact ⟨(if_pos hdropped).symm, fun _ => rfl, fun hopen => absurd hdropped hopen⟩
  · have hopen := (hs.isOpen_iff hh).mpr hdropped
    have hok : (o.exchange.send h text).1.isOk = true := (o.exchange.isOk_send h text).trans hopen
    refine ⟨?_, fun h => absurd h hdropped, fun _ connection => ?_⟩
    · rw [if_neg hdropped]
      cases houtcome : (o.exchange.send h text).1 with
      | ok => rfl
      | error e =>
        rw [houtcome] at hok
        cases hok
    · rw [Exchange.texts_send, Exchange.queued]
      simp only [hok, and_true, eq_comm]

/-- Who holds an outbox beside the registry is who has a handle. -/
theorem mem_holdings {connection : Nat} :
    connection ∈ holdings o.loose o.kept ↔ ∃ holder h, o.handle? holder = some h ∧ h.outbox = connection := by
  have hplace {α : Type} {l : List (Option α)} {a : α} : a ∈ l.filterMap id ↔ ∃ i : Nat, l[i]?.join = some a := by
    rw [List.mem_filterMap]
    simp only [id_eq, exists_eq_right, List.mem_iff_getElem?, Option.join_eq_some_iff]
  rw [holdings, List.mem_append, List.mem_map, List.mem_map]
  simp only [hplace]
  constructor
  · rintro (⟨s, ⟨i, hs⟩, hbox⟩ | ⟨h, ⟨i, hh⟩, hbox⟩)
    · exact ⟨.loose i, s.toHandle, congrArg (Option.map _) hs, hbox⟩
    · exact ⟨.kept i, h, hh, hbox⟩
  · rintro ⟨holder, h, hh, hbox⟩
    cases holder with
    | loose i =>
      obtain ⟨s, hs, rfl⟩ := Option.map_eq_some_iff.mp hh
      exact .inl ⟨s, ⟨i, hs⟩, hbox⟩
    | kept i => exact .inr ⟨h, ⟨i, hh⟩, hbox⟩

theorem Sound.hasSender_iff (hs : o.Sound) (connection : Nat) :
    o.exchange.hasSender connection = true ↔ o.HasSender connection := by
  rw [Exchange.hasSender_iff, hs.held.holds.mem_iff, mem_holdings]
  exact or_comm

/-- An operation keeps no handle, or one more, or it drops one. -/
theorem kept_extend (o : Outgoing) (operation : Operation) :
    (o.extend operation).kept = o.kept ∨ (∃ h, (o.extend operation).kept = o.kept ++ [some h]) ∨
      ∃ number, operation = .drop number ∧ (o.extend operation).kept = o.kept.set number none := by
  cases operation with
  | connect | remove | touch | closeAll | takeClose => exact .inl rfl
  | add connection | discard connection =>
    simp only [extend]
    cases o.loose[connection]?.join <;> exact .inl rfl
  | keep id =>
    simp only [extend]
    cases o.exchange.registry.lookup id with
    | none => exact .inl rfl
    | some h => exact .inr (.inl ⟨h, rfl⟩)
  | copy holder =>
    simp only [extend]
    cases o.handle? holder with
    | none => exact .inl rfl
    | some h => exact .inr (.inl ⟨h, rfl⟩)
  | drop number =>
    simp only [extend]
    cases o.kept[number]?.join with
    | none => exact .inl rfl
    | some h => exact .inr (.inr ⟨number, rfl, rfl⟩)
  | sendTo id text =>
    simp only [extend]
    cases o.exchange.registry.sessions[id]? <;> exact .inl rfl
  | send holder text | requestClose holder =>
    simp only [extend]
    cases o.handle? holder <;> exact .inl rfl
  | receive connection =>
    simp only [extend]
    split <;> exact .inl rfl
  | shut connection =>
    simp only [extend]
    split <;> exact .inl rfl

/-- A handle that was kept is there until it is dropped. -/
theorem handle?_extend {number : Nat} {operation : Operation} (hh : o.handle? (.kept number) = some h)
    (hdrop : operation ≠ .drop number) : (o.extend operation).handle? (.kept number) = some h := by
  have hplace : o.kept[number]? = some (some h) := Option.join_eq_some_iff.mp hh
  refine Option.join_eq_some_iff.mpr ?_
  obtain hkept | ⟨k, hkept⟩ | ⟨other, rfl, hkept⟩ := o.kept_extend operation
  · rw [hkept, hplace]
  · rw [hkept, List.getElem?_append_left (List.getElem?_eq_some_iff.mp hplace).1, hplace]
  · have hne : other ≠ number := fun heq => hdrop (heq ▸ rfl)
    rw [hkept, List.getElem?_set_ne hne, hplace]

theorem handle?_foldl {number : Nat} {operations : List Operation}
    (hh : o.handle? (.kept number) = some h) (hdrop : .drop number ∉ operations) :
    (operations.foldl extend o).handle? (.kept number) = some h := by
  induction operations generalizing o with
  | nil => exact hh
  | cons operation operations ih =>
    obtain ⟨hfirst, hrest⟩ := not_or.mp (mt List.mem_cons.mpr hdrop)
    exact ih (handle?_extend hh (Ne.symm hfirst)) hrest

/-- A handle that is looked up and kept is that of the session of then, whatever is done later. -/
theorem handle?_of_keep {before later : List Operation} {id : String}
    (hlookup : (of before).exchange.registry.lookup id = some h)
    (hdrop : .drop (of before).kept.length ∉ later) :
    (of (before ++ .keep id :: later)).handle? (.kept (of before).kept.length) = some h := by
  have hkeep : ((of before).extend (.keep id)).handle? (.kept (of before).kept.length) = some h := by
    simp only [extend, hlookup]
    show ((of before).kept ++ [some h])[(of before).kept.length]?.join = some h
    rw [List.getElem?_concat_length]
    rfl
  rw [of, List.foldl_append, List.foldl_cons]
  exact handle?_foldl hkeep hdrop

/-- What a connection finds, while its receiver is there. -/
structure Finds (o : Outgoing) (connection : Nat) (reception : Exchange.Reception) : Prop where
  text_iff : ∀ text, reception = .text text ↔
    textsOf connection o.received ++ [text] <+: textsOf connection o.accepted
  pending_iff : reception = .pending ↔
    textsOf connection o.received = textsOf connection o.accepted ∧ o.HasSender connection
  ended_iff : reception = .ended ↔
    textsOf connection o.received = textsOf connection o.accepted ∧ ¬ o.HasSender connection

theorem Sound.finds (hs : o.Sound) {connection : Nat} (hdropped : connection ∉ o.dropped) :
    o.Finds connection (o.exchange.receive connection).1 := by
  have hqueue := hs.queued.queued connection hdropped
  cases htexts : (o.exchange.outbox connection).texts with
  | nil =>
    rw [htexts, List.append_nil] at hqueue
    rw [Exchange.receive_of_nil htexts]
    have hmore (text : String) :
        ¬ textsOf connection o.received ++ [text] <+: textsOf connection o.accepted := by
      intro hprefix
      have hlength := hprefix.length_le
      rw [hqueue, List.length_append, List.length_singleton] at hlength
      omega
    by_cases hsender : o.exchange.hasSender connection = true
    · have hhas := (hs.hasSender_iff connection).mp hsender
      simp only [if_pos hsender]
      exact ⟨fun text => iff_of_false nofun (hmore text), iff_of_true rfl ⟨hqueue.symm, hhas⟩,
        iff_of_false nofun fun h => h.2 hhas⟩
    · have hhas := mt (hs.hasSender_iff connection).mpr hsender
      simp only [if_neg hsender]
      exact ⟨fun text => iff_of_false nofun (hmore text), iff_of_false nofun fun h => hhas h.2,
        iff_of_true rfl ⟨hqueue.symm, hhas⟩⟩
  | cons first rest =>
    rw [htexts] at hqueue
    rw [Exchange.receive_of_cons htexts]
    have hmore : textsOf connection o.received ≠ textsOf connection o.accepted := by
      intro heq
      rw [hqueue] at heq
      exact absurd (List.self_eq_append_right.mp heq) (List.cons_ne_nil _ _)
    refine ⟨fun text => ?_, iff_of_false nofun fun h => hmore h.1, iff_of_false nofun fun h => hmore h.1⟩
    rw [hqueue, List.prefix_append_right_inj, Exchange.Reception.text.injEq]
    constructor
    · rintro rfl
      exact ⟨rest, rfl⟩
    · intro hprefix
      exact (List.cons_prefix_cons.mp hprefix).1.symm

/-- **A connection receives the texts that it was sent with success, in order, each once.** After whatever
operations:

- what a connection has received is the beginning of what was accepted for it, and while its receiver is
  there, the rest is queued;
- a text for a charge point fails as not connected exactly if no session of it is registered, and changes
  nothing then; else it is sent through the handle of the session that is registered;
- whoever has a handle has that of a connection that was made, a handle that was looked up stays that of
  the session of then until it is dropped, and a sending through it reaches its connection;
- a connection is closed exactly if its receiver was dropped;
- a connection finds the next text that was accepted for it; if it has received all of them, it finds the
  end exactly if it is not registered and nobody has a handle of it. -/
theorem received_of_accepted (operations : List Operation) :
    let o := of operations
    let x := o.exchange
    (∀ connection, textsOf connection o.received <+: textsOf connection o.accepted ∧
        (connection ∉ o.dropped → textsOf connection o.accepted =
          textsOf connection o.received ++ (x.outbox connection).texts)) ∧
      (∀ id text, ((x.sendTo id text).1 = .error (.notConnected id) ↔
          x.registry.sessions[id]? = none) ∧
        (x.registry.sessions[id]? = none → (x.sendTo id text).2 = x)) ∧
      (∀ (id : String) (s : Session) (text : String), x.registry.sessions[id]? = some s →
        s.chargePointId = id ∧ Made o.connections s.toHandle ∧
          x.sendTo id text = x.send s.toHandle text) ∧
      (∀ holder h, o.handle? holder = some h → Made o.connections h) ∧
      (∀ before id h later, operations = before ++ .keep id :: later →
        (of before).exchange.registry.lookup id = some h → .drop (of before).kept.length ∉ later →
          o.handle? (.kept (of before).kept.length) = some h) ∧
      (∀ h text, Made o.connections h → o.Reaches h text (x.send h text)) ∧
      (∀ h, Made o.connections h → (x.isClosed h = true ↔ h.outbox ∈ o.dropped)) ∧
      ∀ h, Made o.connections h → h.outbox ∉ o.dropped → o.Finds h.outbox (x.receive h.outbox).1 := by
  intro o x
  have hs : o.Sound := sound_of operations
  have hregistered {id : String} {s : Session} (hsession : x.registry.sessions[id]? = some s) :
      s.chargePointId = id ∧ Made o.connections s.toHandle := hs.held.registered.of_sessions hsession
  refine ⟨fun connection => ⟨hs.queued.isPrefix connection, hs.queued.queued connection⟩,
    fun id text => ⟨?_, fun hnone => ?_⟩, fun id s text hsession => ?_, fun holder h => hs.made, ?_,
    fun h text hh => hs.reaches hh text, fun h hh => ?_, fun h hh => hs.finds⟩
  · cases hsession : x.registry.sessions[id]? with
    | none => exact iff_of_true (congrArg Prod.fst (Exchange.sendTo_of_none hsession text)) rfl
    | some s =>
      refine iff_of_false (fun hfails => ?_) nofun
      rw [Exchange.sendTo_of_some hsession, (hs.reaches (hregistered hsession).2 text).told] at hfails
      split at hfails <;> cases hfails
  · rw [Exchange.sendTo_of_none hnone]
  · obtain ⟨hid, hmade⟩ := hregistered hsession
    exact ⟨hid, hmade, Exchange.sendTo_of_some hsession text⟩
  · rintro before id h later rfl hlookup hdrop
    exact handle?_of_keep hlookup hdrop
  · rw [Exchange.isClosed, Bool.not_eq_true', ← Bool.not_eq_true, hs.isOpen_iff hh, Decidable.not_not]

/-- A handle that was kept goes on reaching the connection that was replaced, and keeps it from finding the
end until it is dropped. -/
example :
    let connect (connection : Nat) : List Operation := [.connect "CP-1" 1 none .epoch, .add connection]
    let operations := connect 0 ++ [.keep "CP-1"] ++ connect 1 ++
      [.sendTo "CP-1" "new", .send (.kept 0) "old", .receive 0]
    let o := of operations
    let p := of (operations ++ [.drop 0])
    textsOf 0 o.received = ["old"] ∧ (o.exchange.outbox 1).texts = ["new"] ∧
      (o.exchange.receive 0).1 = .pending ∧ (p.exchange.receive 0).1 = .ended := by
  decide +kernel

end Law

end Outgoing

end StationGateway
