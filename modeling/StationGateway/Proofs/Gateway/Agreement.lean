import Mathlib.Data.List.Flatten
import StationGateway.Proofs.Gateway.Registration

/-!
# The events agree with the registry

Who listens to the events of a gateway can keep a list of the connections that there are: those that have
begun and not ended. The registry keeps one, too. The two are not changed in one step: a session is
registered before its beginning is told, an evicted one is replaced before its end is told, and it is taken
out after that.

**The law** (`presence_agrees`): every connection tells its story once, in order; as long as connection ids
are not used up, each begins and ends in the log once at most; and whenever all tasks have ended or wait
with nothing pending, the connections that have begun and not ended are those that are registered.
-/

namespace StationGateway

/-- The connection whose beginning an event tells, if it does. -/
def Event.begun? : Event → Option (String × UInt64)
  | .connected a => some (a.chargePointId, a.connectionId)
  | .disconnected _ | .booted _ | .heartbeatReceived _ | .statusChanged _ | .callRejected _ => none

/-- The connection whose end an event tells, if it does. -/
def Event.ended? : Event → Option (String × UInt64)
  | .disconnected b => some (b.chargePointId, b.connectionId)
  | .connected _ | .booted _ | .heartbeatReceived _ | .statusChanged _ | .callRejected _ => none

theorem Event.begun?_eq_some {e : Event} {x : String × UInt64} :
    e.begun? = some x ↔ ∃ a, e = .connected a ∧ x = (a.chargePointId, a.connectionId) := by
  cases e <;> simp [begun?, eq_comm]

theorem Event.ended?_eq_some {e : Event} {x : String × UInt64} :
    e.ended? = some x ↔ ∃ b, e = .disconnected b ∧ x = (b.chargePointId, b.connectionId) := by
  cases e <;> simp [ended?, eq_comm]

theorem Event.eq_none_of_isPresence {e : Event} (h : e.isPresence = false) :
    e.begun? = none ∧ e.ended? = none := by
  cases e <;> first | exact ⟨rfl, rfl⟩ | cases h

namespace Gateway

/-! ## The log -/

namespace Course

variable (c : Course)

/-- All events that were published, in order. -/
def log : List Event :=
  c.entries.flatMap (·.events)

/-- The connections whose beginning was told, each by its identity and its connection id. -/
def begun : List (String × UInt64) :=
  c.log.filterMap Event.begun?

/-- The connections whose end was told. -/
def ended : List (String × UInt64) :=
  c.log.filterMap Event.ended?

variable {c}

theorem mem_begun {x : String × UInt64} :
    x ∈ c.begun ↔ ∃ a, .connected a ∈ c.log ∧ x = (a.chargePointId, a.connectionId) := by
  unfold begun
  simp only [List.mem_filterMap, Event.begun?_eq_some]
  constructor
  · rintro ⟨_, he, a, rfl, hx⟩
    exact ⟨a, he, hx⟩
  · rintro ⟨a, ha, hx⟩
    exact ⟨_, ha, a, rfl, hx⟩

theorem mem_ended {x : String × UInt64} :
    x ∈ c.ended ↔ ∃ b, .disconnected b ∈ c.log ∧ x = (b.chargePointId, b.connectionId) := by
  unfold ended
  simp only [List.mem_filterMap, Event.ended?_eq_some]
  constructor
  · rintro ⟨_, he, b, rfl, hx⟩
    exact ⟨b, he, hx⟩
  · rintro ⟨b, hb, hx⟩
    exact ⟨_, hb, b, rfl, hx⟩

/-- What a connection publishes is in the log, in the same order. -/
theorem published_sublist (c : Course) (number : Nat) : (c.published number).Sublist c.log := by
  refine List.Sublist.flatMap_right _ fun e _ => ?_
  cases e.occurrence.own? number with
  | none => exact List.nil_sublist _
  | some move => exact List.Sublist.refl _

end Course

variable {g g' : Gateway} {p : Phase} {own : Task.Move} {passage : Passage} {r : History}
  {s : Session.Handle} {number i : Nat} {o : Occurrence} {events : List Event} {c : Course}
  {interval : UInt32}

theorem Course.log_extend {e : Entry} : log ⟨g', c.entries ++ [e]⟩ = c.log ++ e.events := by
  unfold log
  rw [List.flatMap_append, List.flatMap_singleton]

theorem Course.published_extend (c : Course) (e : Entry) (number : Nat) :
    published ⟨g', c.entries ++ [e]⟩ number =
      c.published number ++ (e.occurrence.own? number).elim [] fun _ => e.events := by
  unfold published
  rw [List.flatMap_append, List.flatMap_singleton]

/-- What happens is published by a connection, as all before it was. -/
theorem Brings.mem_published (h : Brings c.gateway o g' events)
    (hpublished : ∀ e ∈ c.log, ∃ i, e ∈ c.published i) :
    ∀ e ∈ Course.log ⟨g', c.entries ++ [⟨c.gateway, o, g', events⟩]⟩,
      ∃ i, e ∈ Course.published ⟨g', c.entries ++ [⟨c.gateway, o, g', events⟩]⟩ i := by
  intro e he
  rw [Course.log_extend] at he
  simp only [Course.published_extend]
  rcases List.mem_append.1 he with he | he
  · obtain ⟨i, hi⟩ := hpublished e he
    exact ⟨i, List.mem_append_left _ hi⟩
  · cases h with
    | @task m number t own passage bus =>
      refine ⟨number, List.mem_append_right _ ?_⟩
      rw [Occurrence.own?_task]
      exact he
    | _ => cases he

/-- Every event was published by a connection. -/
theorem Course.mem_published (g : Gateway) (occurrences : List Occurrence) :
    ∀ e ∈ (Course.of g occurrences).log, ∃ i, e ∈ (Course.of g occurrences).published i := by
  refine of_keeps (P := fun c => ∀ e ∈ c.log, ∃ i, e ∈ c.published i) ?_ ?_ occurrences
  · intro e he
    cases he
  · intro c o g' events hc hhappen
    exact (brings_of_happen hhappen).mem_published hc

/-! ## What connections have told -/

/-- No frame causes that a connection begins or ends. -/
theorem Reported.not_mem_answered (h : Reported p r) {e : Event} (he : e.isPresence = true) :
    e ∉ r.answered := by
  intro hmem
  rw [h.answered e hmem] at he
  cases he

/-- Who has told that it has begun is served, or has told that it has ended. -/
theorem Reported.begun (h : Reported p r) {a : Event.Connected} (ha : .connected a ∈ r.published) :
    a.connectionId ∈ r.connectionIds ∧
      ((∃ s, p.served? = some s ∧ a.chargePointId = s.chargePointId ∧ a.connectionId = s.connectionId) ∨
        ∃ b, .disconnected b ∈ r.published ∧ b.chargePointId = a.chargePointId ∧
          b.connectionId = a.connectionId) := by
  have hnot : Event.connected a ∉ r.answered := h.not_mem_answered rfl
  cases h.told with
  | nothing _ hnone =>
    rw [hnone] at ha
    cases ha
  | @begun s a' hphase hsame hown hpublished =>
    rw [hpublished] at ha
    rcases List.mem_cons.1 ha with heq | hmem
    · cases heq
      exact ⟨hown.2, .inl ⟨s, hphase, hsame⟩⟩
    · exact (hnot hmem).elim
  | @ended a' b hphase hsame hown hpublished =>
    have hb : Event.disconnected b ∈ r.published := by
      rw [hpublished]
      simp
    rw [hpublished] at ha
    rcases List.mem_cons.1 ha with heq | hmem
    · cases heq
      exact ⟨hown.2, .inr ⟨b, hb, hsame⟩⟩
    · rcases List.mem_append.1 hmem with hmem | hmem
      · exact (hnot hmem).elim
      · cases List.mem_singleton.1 hmem

/-- Who has told that it has ended is served no more. -/
theorem Reported.ended (h : Reported p r) {b : Event.Disconnected} (hb : .disconnected b ∈ r.published) :
    b.connectionId ∈ r.connectionIds ∧ 8 ≤ p.stage := by
  have hnot : Event.disconnected b ∉ r.answered := h.not_mem_answered rfl
  cases h.told with
  | nothing _ hnone =>
    rw [hnone] at hb
    cases hb
  | begun _ _ _ hpublished =>
    rw [hpublished] at hb
    rcases List.mem_cons.1 hb with heq | hmem
    · cases heq
    · exact (hnot hmem).elim
  | @ended a b' hphase hsame hown hpublished =>
    rw [hpublished] at hb
    rcases List.mem_cons.1 hb with heq | hmem
    · cases heq
    · rcases List.mem_append.1 hmem with hmem | hmem
      · exact (hnot hmem).elim
      · cases List.mem_singleton.1 hmem
        exact ⟨hsame.2 ▸ hown.2, hphase⟩

/-- A connection that is served has told that it has begun. -/
theorem Reported.connected (h : Reported p r) (hs : p.served? = some s) :
    ∃ a, .connected a ∈ r.published ∧ a.chargePointId = s.chargePointId ∧
      a.connectionId = s.connectionId := by
  cases h.told with
  | nothing hphase =>
    rw [hs] at hphase
    cases hphase
  | @begun s' a hphase hsame _ hpublished =>
    rw [hs] at hphase
    obtain rfl := Option.some.inj hphase
    refine ⟨a, ?_, hsame⟩
    rw [hpublished]
    exact List.mem_cons_self
  | ended hphase =>
    rw [Phase.served?_eq_none (.inr hphase)] at hs
    cases hs

/-! ## What holds on every course -/

/-- What holds on a course on which no task is broken off and connection ids are not used up. -/
structure Agrees (c : Course) (interval : UInt32) : Prop extends c.Tells interval where
  orderly : c.gateway.Orderly
  apart : c.gateway.Apart
  listening : c.gateway.Listening
  numbered : c.IsNumbered
  located : c.gateway.AllLocated
  published : ∀ e ∈ c.log, ∃ i, e ∈ c.published i
  begun : (c.begun.map Prod.snd).Nodup
  ended : (c.ended.map Prod.snd).Nodup

theorem agrees_new (config : Config) : Agrees ⟨new config, []⟩ config.ocpp.heartbeatInterval where
  toTells := Course.tells_new config
  orderly := orderly_new config
  apart := apart_new _ rfl
  listening := ⟨Nat.zero_lt_one, fun _ => ⟨_, rfl⟩⟩
  numbered := numbered_new config
  located _ _ h := nomatch h
  published _ h := nomatch h
  begun := List.nodup_nil
  ended := List.nodup_nil

/-- The session of a task has the connection id that the task has drawn. -/
theorem Agrees.mem_connectionIds (h : Agrees c interval) (hs : (c.gateway.phase i).session? = some s) :
    s.connectionId ∈ (c.history i).connectionIds :=
  (h.reported i).connectionId _ (Phase.connectionId?_of_session? hs)

/-- One event more leaves connection ids apart, if nobody has told the same of the same. -/
theorem nodup_concat_log {log : List Event} {f : Event → Option (String × UInt64)}
    (h : ((log.filterMap f).map Prod.snd).Nodup) {e : Event}
    (he : ∀ x, f e = some x → ∀ e' ∈ log, ∀ y, f e' = some y → y.2 ≠ x.2) :
    (((log ++ [e]).filterMap f).map Prod.snd).Nodup := by
  rw [List.filterMap_append, List.map_append, List.nodup_append]
  refine ⟨h, ?_, ?_⟩
  · cases hf : f e <;> simp [hf]
  · intro n hn n' hn'
    obtain ⟨y, hy, rfl⟩ := List.mem_map.1 hn
    obtain ⟨e', he', hfy⟩ := List.mem_filterMap.1 hy
    obtain ⟨x, hx, rfl⟩ := List.mem_map.1 hn'
    obtain ⟨e'', he'', hfx⟩ := List.mem_filterMap.1 hx
    obtain rfl := List.mem_singleton.1 he''
    exact he x hfx e' he' y hfy

/-- What a step of a task tells leaves connection ids apart: a connection tells each of the two once. -/
theorem Agrees.nodup_extend (h : Agrees c interval) (hphase : c.gateway.phase number = p)
    (htells : Tells p own passage) :
    (((c.log ++ passage.events).filterMap Event.begun?).map Prod.snd).Nodup ∧
      (((c.log ++ passage.events).filterMap Event.ended?).map Prod.snd).Nodup := by
  have hsilent {events : List Event} (hevents : ∀ e ∈ events, e.isPresence = false) :
      events.filterMap Event.begun? = [] ∧ events.filterMap Event.ended? = [] := by
    constructor
    · exact List.filterMap_eq_nil_iff.2 fun e he => (Event.eq_none_of_isPresence (hevents e he)).1
    · exact List.filterMap_eq_nil_iff.2 fun e he => (Event.eq_none_of_isPresence (hevents e he)).2
  subst hphase
  cases htells with
  | nothing _ _ hevents =>
    rw [hevents, List.append_nil]
    exact ⟨h.begun, h.ended⟩
  | serves _ _ _ hevents =>
    obtain ⟨hbegun, hended⟩ := hsilent hevents
    rw [List.filterMap_append, List.filterMap_append, hbegun, hended, List.append_nil, List.append_nil]
    exact ⟨h.begun, h.ended⟩
  | @opens s a hbefore hsession _ hsame hevents =>
    rw [hevents]
    refine ⟨nodup_concat_log h.begun ?_, nodup_concat_log h.ended (fun _ hx => nomatch hx)⟩
    intro x hx e' he' y hy heq
    obtain ⟨a', rfl, rfl⟩ := Event.begun?_eq_some.1 hy
    obtain rfl := Option.some.inj hx
    obtain ⟨j, hj⟩ := h.published _ he'
    have hids := ((h.reported j).begun hj).1
    have hmine := h.mem_connectionIds hsession
    have heq : a'.connectionId = a.connectionId := heq
    rw [← hsame.2, ← heq] at hmine
    -- the task that begins now has told nothing before
    obtain rfl := h.numbered.distinct j number _ hids hmine
    rcases ((h.reported j).begun hj).2 with ⟨s', hserved, -⟩ | ⟨b, hb, -⟩
    · rw [Phase.served?_eq_none (.inl (Nat.le_of_eq hbefore))] at hserved
      cases hserved
    · have hstage := ((h.reported j).ended hb).2
      omega
  | @closes s b hbefore _ hsame hevents =>
    rw [hevents]
    refine ⟨nodup_concat_log h.begun (fun _ hx => nomatch hx), nodup_concat_log h.ended ?_⟩
    intro x hx e' he' y hy heq
    obtain ⟨b', rfl, rfl⟩ := Event.ended?_eq_some.1 hy
    obtain rfl := Option.some.inj hx
    obtain ⟨j, hj⟩ := h.published _ he'
    obtain ⟨hids, hstage⟩ := (h.reported j).ended hj
    have hmine := h.mem_connectionIds (Phase.session?_of_served? hbefore)
    have heq : b'.connectionId = b.connectionId := heq
    rw [← hsame.2, ← heq] at hmine
    -- the task that ends now is still served
    obtain rfl := h.numbered.distinct j number _ hids hmine
    rw [Phase.served?_eq_none (.inr hstage)] at hbefore
    cases hbefore

theorem Agrees.extend (h : Agrees c interval) (hhappen : o.happen c.gateway = some (g', events))
    (hwhole : o.breaksOff c.gateway = false)
    (hlimit : Course.drawn ⟨g', c.entries ++ [⟨c.gateway, o, g', events⟩]⟩ < UInt64.size) :
    Agrees ⟨g', c.entries ++ [⟨c.gateway, o, g', events⟩]⟩ interval := by
  have hbrings : Brings c.gateway o g' events := brings_of_happen hhappen
  have hnodup : (((c.log ++ events).filterMap Event.begun?).map Prod.snd).Nodup ∧
      (((c.log ++ events).filterMap Event.ended?).map Prod.snd).Nodup := by
    cases hbrings with
    | @task m number t own passage bus ht hpasses =>
      have hwhole : own.breaksOff c.gateway m = false := hwhole
      exact h.nodup_extend (phase_of_task ht) (hpasses.tells h.dispatcher hwhole)
    | _ =>
      rw [List.append_nil]
      exact ⟨h.begun, h.ended⟩
  constructor
  case toTells => exact h.toTells.extend hbrings hwhole
  case orderly => exact h.orderly.brings hbrings
  case apart => exact h.apart.brings hbrings
  case listening => exact h.listening.brings h.orderly hbrings
  case numbered => exact h.numbered.extend hbrings hlimit
  case located =>
    refine h.located.brings hbrings h.apart fun i j s s' hs hs' heq => ?_
    have hj := h.mem_connectionIds hs'
    rw [← heq] at hj
    exact h.numbered.distinct i j _ (h.mem_connectionIds hs) hj
  case published => exact hbrings.mem_published h.published
  case begun =>
    unfold Course.begun
    rw [Course.log_extend]
    exact hnodup.1
  case ended =>
    unfold Course.ended
    rw [Course.log_extend]
    exact hnodup.2

/-- On every course on which no task is broken off and connection ids are not used up, the two agree. -/
theorem agrees_of {config : Config} (occurrences : List Occurrence)
    (hwhole : (Course.of (new config) occurrences).IsWhole)
    (hlimit : (Course.of (new config) occurrences).drawn < UInt64.size) :
    Agrees (Course.of (new config) occurrences) config.ocpp.heartbeatInterval := by
  refine Course.of_keeps (P := fun c => c.IsWhole → c.drawn < UInt64.size →
    Agrees c config.ocpp.heartbeatInterval) (fun _ _ => agrees_new config) ?_ occurrences hwhole hlimit
  intro c o g' events hc hhappen hwhole hlimit
  obtain ⟨hbefore, hnow⟩ := Course.isWhole_extend.1 hwhole
  have hless : c.drawn < UInt64.size := by
    rw [Course.drawn_extend] at hlimit
    exact Nat.lt_of_le_of_lt (Nat.le_add_right _ _) hlimit
  exact (hc hbefore hless).extend hhappen hnow hlimit

/-! ## Rest -/

/-- Whether every task has ended, or waits for its connection while it is not asked to close and no shutdown
is under way. -/
def AtRest (g : Gateway) : Prop :=
  ∀ (i : Nat) t, g.tasks[i]? = some t →
    t.phase = .ended ∨ ∃ waiter session deadline, t.phase = .serving waiter session deadline ∧
      (g.exchange.outbox session.outbox).closeRequested = false ∧ g.shutdown.isTriggered = false

/-- At rest, whoever has a session serves it. -/
theorem AtRest.serving (h : g.AtRest) (hs : (g.phase i).session? = some s) :
    (g.phase i).served? = some s ∧ (g.exchange.outbox s.outbox).closeRequested = false ∧
      g.shutdown.isTriggered = false := by
  unfold phase at hs ⊢
  cases ht : g.tasks[i]? with
  | none =>
    rw [ht] at hs
    cases hs
  | some t =>
    rw [ht] at hs
    have hs : t.phase.session? = some s := hs
    rcases h i t ht with hended | ⟨waiter, session, deadline, hserving, hclose, hdown⟩
    · rw [hended] at hs
      cases hs
    · rw [hserving] at hs
      obtain rfl := Option.some.inj hs
      exact ⟨congrArg Phase.served? hserving, hclose, hdown⟩

/-- At rest, the session of a task is registered. -/
theorem Agrees.registered (h : Agrees c interval) (hrest : c.gateway.AtRest)
    (hs : (c.gateway.phase i).session? = some s) :
    c.gateway.exchange.registry.lookup s.chargePointId = some s := by
  obtain ⟨-, hclose, hdown⟩ := hrest.serving hs
  cases h.located i s hs with
  | registered hlookup => exact hlookup
  | asked hclosed =>
    rw [hclose] at hclosed
    cases hclosed
  | replaced hphase =>
    have hserved := (hrest.serving (congrArg Phase.session? hphase)).1
    rw [hphase] at hserved
    cases hserved
  | takenOut hlistener =>
    obtain ⟨waiter, haccepting⟩ := h.listening.accepting hdown
    cases hlistener.symm.trans haccepting

/-- **At rest, the registered sessions are the connections that have begun and not ended.** -/
theorem Agrees.mem_registry_iff (h : Agrees c interval) (hrest : c.gateway.AtRest) (id : String)
    (n : UInt64) :
    (∃ s : Session, c.gateway.exchange.registry.sessions[id]? = some s ∧ s.connectionId = n) ↔
      (id, n) ∈ c.begun ∧ (id, n) ∉ c.ended := by
  constructor
  · rintro ⟨session, hsession, rfl⟩
    obtain ⟨rfl, i, t, ht, hs⟩ := h.orderly.within.of_sessions hsession
    rw [← phase_of_task ht] at hs
    have hserved := (hrest.serving hs).1
    obtain ⟨a, ha, hid, hn⟩ := (h.reported i).connected hserved
    refine ⟨Course.mem_begun.2 ⟨a, (c.published_sublist i).subset ha, ?_⟩, fun hended => ?_⟩
    · rw [hid, hn]
    · obtain ⟨b, hb, heq⟩ := Course.mem_ended.1 hended
      obtain ⟨j, hj⟩ := h.published _ hb
      obtain ⟨hids, hstage⟩ := (h.reported j).ended hj
      have hmine := h.mem_connectionIds hs
      have hsame : session.connectionId = b.connectionId := congrArg Prod.snd heq
      rw [hsame] at hmine
      obtain rfl := h.numbered.distinct i j _ hmine hids
      rw [Phase.served?_eq_none (.inr hstage)] at hserved
      cases hserved
  · rintro ⟨hbegun, hended⟩
    obtain ⟨a, ha, heq⟩ := Course.mem_begun.1 hbegun
    obtain ⟨rfl, rfl⟩ := Prod.mk.inj heq
    obtain ⟨i, hi⟩ := h.published _ ha
    rcases ((h.reported i).begun hi).2 with ⟨s, hserved, hid, hn⟩ | ⟨b, hb, hid, hn⟩
    · have hlookup := h.registered hrest (Phase.session?_of_served? hserved)
      obtain ⟨session, hsession, rfl⟩ := Option.map_eq_some_iff.1 hlookup
      rw [hid, hn]
      exact ⟨session, hsession, rfl⟩
    · refine (hended (Course.mem_ended.2 ⟨b, (c.published_sublist i).subset hb, ?_⟩)).elim
      rw [hid, hn]

/-! ## The law -/

/-- **The events of connections agree with the registry.** Whatever happens to a gateway, as long as no
task is aborted or breaks down:

- a connection is opened for one charge point at most; one that is served publishes that it has begun, then
  what its frames come to, then that it has ended, the first and the last with the identity for which it was
  opened and a connection id that it has drawn; all three are in the log in this order, and nothing else is
  there;
- a connection whose opening is refused, or that finds the flag of the shutdown up, publishes nothing;
- as long as connection ids are not used up, for no connection id it is told twice that a connection has
  begun, or that it has ended;
- and whenever the gateway is at rest, the registered sessions are the connections that have begun and not
  ended. -/
theorem presence_agrees {config : Config} (occurrences : List Occurrence)
    (hwhole : (Course.of (new config) occurrences).IsWhole) :
    let c := Course.of (new config) occurrences
    (∀ i, (c.history i).identities.length ≤ 1 ∧
        Told (c.gateway.phase i) (c.history i) ∧
        (∀ e ∈ (c.history i).answered, e.isPresence = false) ∧
        (c.history i).published.Sublist c.log ∧
        ((c.history i).isTurnedAway = true → (c.history i).published = [])) ∧
      (∀ e ∈ c.log, ∃ i, e ∈ (c.history i).published) ∧
      (c.drawn < UInt64.size →
        (c.begun.map Prod.snd).Nodup ∧ (c.ended.map Prod.snd).Nodup ∧
        (c.gateway.AtRest → ∀ id n,
          (∃ s : Session, c.gateway.exchange.registry.sessions[id]? = some s ∧ s.connectionId = n) ↔
            (id, n) ∈ c.begun ∧ (id, n) ∉ c.ended)) := by
  intro c
  have htells : c.Tells config.ocpp.heartbeatInterval := Course.tells_of occurrences hwhole
  refine ⟨fun i => ?_, Course.mem_published _ occurrences, fun hlimit => ?_⟩
  · have hreported := htells.reported i
    refine ⟨(sound_of rfl occurrences i).kept.once, hreported.told, hreported.answered,
      c.published_sublist i, fun haway => (hreported.turnedAway haway).2⟩
  · have hagrees : Agrees c config.ocpp.heartbeatInterval := agrees_of occurrences hwhole hlimit
    exact ⟨hagrees.begun, hagrees.ended, hagrees.mem_registry_iff⟩

/-- A charge point that connects a second time while its first connection is served. A connection whose
opening is refused comes in between. The first connection is evicted and ends, and the second one says
that it is alive. -/
def reconnected : List Occurrence :=
  List.map (Occurrence.step (.still .epoch 0 "")) [
    .accept (.v4 ⟨192, 0, 2, 1⟩ 5000),
    .task 0 .subscribe,
    .task 0 (.receiveRequest ⟨"/ws", some "id=CP-1"⟩ []),
    .task 0 .drawId,
    .task 0 .insert,
    .task 0 .closeOld,
    .task 0 .beginService,
    .accept (.v4 ⟨192, 0, 2, 1⟩ 5001),
    .task 1 .subscribe,
    .task 1 (.receiveRequest ⟨"/elsewhere", none⟩ []),
    .accept (.v4 ⟨192, 0, 2, 1⟩ 5002),
    .task 2 .subscribe,
    .task 2 (.receiveRequest ⟨"/ws", some "id=CP-1"⟩ []),
    .task 2 .drawId,
    .task 2 .insert,
    .task 2 .closeOld,
    .task 2 .beginService,
    .task 0 (.endService .closedByServer),
    .task 0 .tellEnd,
    .task 0 .remove,
    .task 2 (.read (.text "[2,\"u1\",\"Heartbeat\",{}]") true)]

/-- The second beginning is told before the first end. The second connection is the one that is
registered, and the one that was refused has told nothing. -/
theorem presence_agrees_reconnected :
    let c := Course.of (new {}) reconnected
    c.IsWhole ∧ c.drawn < UInt64.size ∧ c.gateway.AtRest ∧
      c.log.map Event.kind = [.connected, .connected, .disconnected, .heartbeatReceived] ∧
      (c.history 1).published = [] ∧
      ∃ s : Session, c.gateway.exchange.registry.sessions["CP-1"]? = some s ∧ s.connectionId = 2 := by
  intro c
  have hwhole : c.IsWhole := by
    have hall : c.entries.all (fun e => e.occurrence.breaksOff e.before == false) = true := by
      decide +kernel
    intro e he
    exact eq_of_beq (List.all_eq_true.1 hall e he)
  have hlimit : c.drawn < UInt64.size := by decide +kernel
  have hphases : c.gateway.tasks.toList.map (·.phase) =
      [.ended, .ended, .serving ⟨⟨0⟩, false⟩ ⟨"CP-1", 2, 1⟩ (some 300)] := by decide +kernel
  have hclose : (c.gateway.exchange.outbox 1).closeRequested = false := by decide +kernel
  have hdown : c.gateway.shutdown.isTriggered = false := by decide +kernel
  have hrest : c.gateway.AtRest := by
    intro i t ht
    have hmem : t.phase ∈ c.gateway.tasks.toList.map (·.phase) :=
      List.mem_map_of_mem (Array.mem_toList_iff.2 (Array.mem_of_getElem? ht))
    rw [hphases] at hmem
    simp only [List.mem_cons, List.not_mem_nil, or_false] at hmem
    rcases hmem with hended | hended | hserving
    · exact .inl hended
    · exact .inl hended
    · exact .inr ⟨_, _, _, hserving, hclose, hdown⟩
  have haway : (c.history 1).isTurnedAway = true := by decide +kernel
  have hkinds : c.log.map Event.kind = [.connected, .connected, .disconnected, .heartbeatReceived] := by
    decide +kernel
  have hbegun : ("CP-1", 2) ∈ c.begun := by decide +kernel
  have hended : ("CP-1", 2) ∉ c.ended := by decide +kernel
  obtain ⟨htold, -, hids⟩ := @presence_agrees {} reconnected hwhole
  obtain ⟨-, -, -, -, hquiet⟩ := htold 1
  obtain ⟨-, -, hregistry⟩ := hids hlimit
  have hcourse : Course.of (new {}) reconnected = c := rfl
  rw [hcourse] at hregistry
  exact ⟨hwhole, hlimit, hrest, hkinds, hquiet haway, (hregistry hrest "CP-1" 2).2 ⟨hbegun, hended⟩⟩

end Gateway

end StationGateway
