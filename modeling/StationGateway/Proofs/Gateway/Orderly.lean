import StationGateway.Proofs.Gateway.Step
import StationGateway.Proofs.Session.Exchange
import StationGateway.Proofs.Shutdown.Waiting

/-!
# What holds in every state of a gateway

`Orderly` is the invariant that the laws about shutting down rest on: the flag and the channel of the
signal agree, every waiter heeds the signal, whatever is registered is the session of a task that has not
taken it out, and a gateway that has returned has no task left.

It does not ask for connection ids to differ. Two connections may get one number after all numbers were
given out, and still none stays registered without a task: a task that takes its session out takes out
whatever stands there under its charge point and number.
-/

namespace StationGateway.Gateway

/-- Whether a session is that of a task which has registered it and not taken it out. -/
def HasSession (g : Gateway) (h : Session.Handle) : Prop :=
  ∃ (i : Nat) (t : Task), g.tasks[i]? = some t ∧ t.phase.session? = some h

/-- What holds in every state. -/
structure Orderly (g : Gateway) : Prop where
  consistent : g.shutdown.Consistent g.isAnnouncing.toNat
  heeds : ∀ (i : Nat) t, g.tasks[i]? = some t → ∀ w, t.phase.waiter? = some w → w.Heeds g.shutdown
  within : g.exchange.registry.Within g.HasSession
  returned : g.listener = .returned → g.allEnded = true

theorem orderly_new (config : Config) : (new config).Orderly where
  consistent := Shutdown.consistent_new
  heeds := fun _ _ h => nomatch h
  within := Registry.within_empty _
  returned := fun h => nomatch h

variable {g g' : Gateway} {m : Moment} {number : Nat} {t : Task}

theorem isEnded_of_allEnded (h : g.allEnded = true) {i : Nat} (ht : g.tasks[i]? = some t) :
    t.phase.isEnded = true :=
  Array.all_eq_true_iff_forall_mem.1 h t (Array.mem_of_getElem? ht)

/-! ## Steps of tasks -/

section Passing

variable {address : SocketAddress} {p : Phase} {own : Task.Move} {c : Passage}

theorem Passes.isEnded_eq_false (h : Passes g m address p own c) : p.isEnded = false := by
  cases h <;> rfl

/-- A task that goes on waiting still heeds the signal. -/
theorem Passes.heeds (h : Passes g m address p own c) {announcing : Nat}
    (hs : g.shutdown.Consistent announcing) (hp : ∀ w, p.waiter? = some w → w.Heeds g.shutdown) :
    ∀ w, c.phase.waiter? = some w → w.Heeds g.shutdown := by
  intro w hw
  cases h with
  | subscribe =>
    obtain rfl := Option.some.inj hw
    exact Shutdown.heeds_notified g.shutdown
  | wait hpoll =>
    obtain rfl := Option.some.inj hw
    exact (hp _ rfl).poll hs hpoll
  | _ => first | exact hp w hw | cases hw

/-- What is registered after a step of a task: what was there before, unless it is the session that the
task takes out, and a session with a new outbox that the task adds. -/
theorem Passes.within {P Q : Session.Handle → Prop} (h : Passes g m address p own c)
    (hr : g.exchange.registry.Within P)
    (hkeep : ∀ k, P k → (p.session? = some k → c.phase.session? = some k) → Q k)
    (hnew : ∀ k, c.phase.session? = some k → k.outbox = g.exchange.outboxes.size → Q k) :
    c.exchange.registry.Within Q := by
  cases h with
  | drawId hdraw =>
    obtain ⟨rfl, rfl⟩ := Prod.mk.inj hdraw
    exact hr.mono fun k hk => hkeep k hk id
  | @insert _ _ _ session _ _ _ hconnect hinsert =>
    obtain ⟨hsession, -, hregistry, -⟩ := Exchange.insert_connect hconnect hinsert
    show Registry.Within _ Q
    rw [hregistry]
    refine hr.insert session (hnew _ rfl ?_) fun k hk => hkeep k hk fun hnone => nomatch hnone
    rw [hsession]
  | @closeOld _ _ old =>
    cases old <;> exact hr.mono fun k hk => hkeep k hk id
  | forward hreceive | failToForward hreceive =>
    show Registry.Within _ Q
    rw [(Exchange.sameSessions_receive hreceive).registry_eq]
    exact hr.mono fun k hk => hkeep k hk id
  | answer | failToAnswer => exact (hr.mono fun k hk => hkeep k hk id).touch _ _ _
  | @remove session =>
    refine hr.remove session fun k hk hne => hkeep k hk fun hgone => ?_
    exact (hne (Option.some.inj hgone).symm).elim
  | _ => exact hr.mono fun k hk => hkeep k hk id

/-- No outbox is ever given back. -/
theorem Passes.size_le (h : Passes g m address p own c) :
    g.exchange.outboxes.size ≤ c.exchange.outboxes.size := by
  cases h with
  | drawId hdraw =>
    obtain ⟨-, rfl⟩ := Prod.mk.inj hdraw
    exact Nat.le_refl _
  | insert hconnect hinsert =>
    obtain ⟨-, -, -, hboxes⟩ := Exchange.insert_connect hconnect hinsert
    show _ ≤ Array.size _
    rw [hboxes, Array.size_push]
    exact Nat.le_succ _
  | @closeOld _ _ old =>
    cases old with
    | none => exact Nat.le_refl _
    | some old => exact Nat.le_of_eq (g.exchange.sameSessions_modify ..).size_eq.symm
  | forward hreceive | failToForward hreceive =>
    exact Nat.le_of_eq (Exchange.sameSessions_receive hreceive).size_eq.symm
  | remove => exact Nat.le_of_eq (Exchange.sameSessions_modify ..).size_eq.symm
  | _ => exact Nat.le_refl _

theorem Orderly.pass (hs : g.Orderly) (ht : g.tasks[number]? = some t)
    (h : Passes g m t.address t.phase own c) : (g.pass number c).Orderly where
  consistent := hs.consistent
  heeds := by
    intro i t' ht' w hw
    by_cases hi : number = i
    · subst hi
      obtain rfl := Option.some.inj ((getElem?_pass_self ht c).symm.trans ht')
      exact h.heeds hs.consistent (hs.heeds number t ht) w hw
    · exact hs.heeds i t' ((getElem?_pass_of_ne hi c).symm.trans ht') w hw
  within := by
    refine h.within hs.within (fun k ⟨i, t', ht', hk⟩ hown => ?_) fun k hk _ => ?_
    · by_cases hi : number = i
      · subst hi
        obtain rfl := Option.some.inj (ht.symm.trans ht')
        exact ⟨number, _, getElem?_pass_self ht c, hown hk⟩
      · exact ⟨i, t', (getElem?_pass_of_ne hi c).trans ht', hk⟩
    · exact ⟨number, _, getElem?_pass_self ht c, hk⟩
  returned := by
    intro hreturned
    have hended := isEnded_of_allEnded (hs.returned hreturned) ht
    rw [h.isEnded_eq_false] at hended
    cases hended

end Passing

/-! ## Other steps -/

section Turning

variable {move : Move} {events : List Event}

theorem Turns.consistent (h : Turns g move g') (hs : g.shutdown.Consistent g.isAnnouncing.toNat) :
    g'.shutdown.Consistent g'.isAnnouncing.toNat := by
  cases h with
  | @raiseShutdown wasRaised _ hraise =>
    cases wasRaised with
    | true =>
      rw [Shutdown.eq_of_raise_up hraise]
      show g.shutdown.Consistent (g.isAnnouncing || false).toNat
      rw [Bool.or_false]
      exact hs
    | false =>
      have hdown : g.shutdown.isTriggered = false := congrArg Prod.fst hraise
      have hquiet : g.isAnnouncing.toNat = 0 := by
        have htold := hs.told
        rw [hdown] at htold
        exact (Nat.add_eq_zero_iff.1 htold).1
      have hraised := hs.raise_down hraise
      rw [hquiet] at hraised
      show Shutdown.Consistent _ (g.isAnnouncing || true).toNat
      rw [Bool.or_true]
      exact hraised
  | announceShutdown hannouncing =>
    rw [hannouncing] at hs
    exact hs.announce
  | _ => exact hs

theorem Turns.heeds (h : Turns g move g') {w : Shutdown.Waiter} (hw : w.Heeds g.shutdown) :
    w.Heeds g'.shutdown := by
  cases h with
  | raiseShutdown hraise =>
    obtain ⟨-, rfl⟩ := Prod.mk.inj hraise
    exact hw.raise
  | announceShutdown => exact hw.announce
  | _ => exact hw

theorem Turns.isTriggered (h : Turns g move g') (hup : g.shutdown.isTriggered = true) :
    g'.shutdown.isTriggered = true := by
  cases h with
  | raiseShutdown hraise =>
    obtain ⟨-, rfl⟩ := Prod.mk.inj hraise
    rfl
  | _ => exact hup

theorem Turns.within {P : Session.Handle → Prop} (h : Turns g move g')
    (hr : g.exchange.registry.Within P) : g'.exchange.registry.Within P := by
  cases h with
  | takeOutNext _ htake =>
    obtain ⟨-, rfl⟩ := Prod.mk.inj htake
    exact hr.take _
  | send id text =>
    show Registry.Within _ P
    rw [(g.exchange.sameSessions_sendTo id text).registry_eq]
    exact hr
  | _ => exact hr

theorem Turns.size_eq (h : Turns g move g') :
    g'.exchange.outboxes.size = g.exchange.outboxes.size := by
  cases h with
  | takeOutNext _ htake =>
    obtain ⟨-, rfl⟩ := Prod.mk.inj htake
    rfl
  | closeTaken | requestClose => exact (g.exchange.sameSessions_modify ..).size_eq
  | send id text => exact (g.exchange.sameSessions_sendTo id text).size_eq
  | _ => rfl

theorem Orderly.turn (hs : g.Orderly) (h : Turns g move g') : g'.Orderly where
  consistent := h.consistent hs.consistent
  heeds := by
    intro i t ht w hw
    rcases h.tasks_eq with htasks | ⟨address, htasks⟩
    · exact h.heeds (hs.heeds i t (htasks ▸ ht) w hw)
    · rw [htasks, Array.getElem?_push] at ht
      split at ht
      · cases ht
        cases hw
      · exact h.heeds (hs.heeds i t ht w hw)
  within := by
    refine h.within (hs.within.mono fun k ⟨i, t, ht, hk⟩ => ?_)
    exact ⟨i, t, h.getElem?_tasks ht, hk⟩
  returned := by
    intro hreturned
    cases h with
    | finish _ hended => exact hended
    | raiseShutdown | announceShutdown | send | requestClose => exact hs.returned hreturned
    | _ => cases hreturned

end Turning

/-! ## Runs -/

theorem Orderly.happens {move : Move} {events : List Event} (hs : g.Orderly)
    (h : Happens g m move g' events) : g'.Orderly := by
  cases h with
  | task ht hpasses => exact hs.pass ht hpasses
  | turn hturns => exact hs.turn hturns

theorem Orderly.publish (hs : g.Orderly) (bus : EventBus) : { g with bus := bus }.Orderly :=
  ⟨hs.consistent, hs.heeds, hs.within, hs.returned⟩

theorem Orderly.step {move : Move} {events : List Event} (hs : g.Orderly)
    (h : g.step m move = some (g', events)) : g'.Orderly := by
  obtain ⟨done, bus, hhappens, rfl⟩ := happens_of_step h
  exact (hs.happens hhappens).publish bus

/-- **Every state of a gateway is orderly.** -/
theorem orderly_of_run {config : Config} {moves : List (Moment × Move)} {events : List Event}
    (hrun : (new config).run moves = some (g, events)) : g.Orderly :=
  run_keeps (fun _ bus hs => hs.publish bus) (fun _ _ _ _ _ hs h => hs.happens h) hrun
    (orderly_new config)

end StationGateway.Gateway
