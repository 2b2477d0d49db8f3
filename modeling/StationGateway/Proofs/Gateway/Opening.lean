import StationGateway.Proofs.Gateway.Course
import StationGateway.Proofs.Handshake.Decision

/-!
# Opening a connection

The request that opens a connection is decided by the settings alone, and a task whose request is turned away
has ended. Up to there it drew no id, registered no session and told nobody.

**The law** (`request_decided`): what a request is answered is decided by its path, then by its query, and the
protocol is confirmed where it is offered; and whatever else happens to a gateway, all that the steps of a task
ever leave behind is where the task stands, once its request was turned away.

`Opening` is the invariant: a task that is not past its request has left nothing behind, and a task whose
request was turned away neither, and it has ended.
-/

namespace StationGateway.Gateway

/-- Whether the steps of a task leave nothing behind but where the task stands: no id is drawn, no session is
registered, nothing is written and nothing is published. -/
def LeavesNothing (entries : List Entry) (number : Nat) : Prop :=
  ∀ e ∈ entries, ∀ m own, e.occurrence = .step m (.task number own) →
    e.events = [] ∧ ∃ p, e.after = e.before.setPhase number p

/-- Whether a gateway with these settings turns a request away. -/
def Refuses (config : Config) (uri : Uri) (protocols : List String) : Prop :=
  ∃ r, Handshake.accept uri protocols [] config.server.path config.server.identityParameter = .error r

variable {g g' : Gateway} {m : Moment} {move : Move} {o : Occurrence} {events : List Event} {number : Nat}
  {uri : Uri} {protocols : List String} {config : Config}

/-! ## Steps that leave nothing behind -/

section Passing

variable {address : SocketAddress} {p : Phase} {own : Task.Move} {c : Passage}

/-- A task that waits for its request has only begun. -/
theorem Passes.eq_goTo_of_stage_le (h : Passes g m address p own c) (hstage : c.phase.stage ≤ 1) :
    p.stage ≤ 1 ∧ c = g.goTo c.phase [] [] := by
  cases h with
  | subscribe => exact ⟨Nat.zero_le _, rfl⟩
  | _ => exact absurd hstage (Nat.not_le_of_gt (Nat.le_of_ble_eq_true rfl))

/-- A task whose request is turned away ends at once. -/
theorem Passes.eq_goTo_of_refuses (h : Passes g m address p (.receiveRequest uri protocols) c)
    (hrefuses : Refuses g.config uri protocols) : p.stage ≤ 1 ∧ c = g.goTo .ended [] [] := by
  cases h with
  | identify haccept =>
    obtain ⟨r, hr⟩ := hrefuses
    rw [hr] at haccept
    cases haccept
  | refuseToOpen => exact ⟨Nat.le_refl _, rfl⟩

theorem not_passes_ended (h : Passes g m address .ended own c) : False := by
  cases h

end Passing

theorem Brings.config_eq (h : Brings g o g' events) : g'.config = g.config := by
  cases h with
  | turn bus hturns => cases hturns <;> rfl
  | _ => rfl

/-- What a step of a task leaves behind, with the bus. -/
theorem passes_of_step {own : Task.Move} (h : g.step m (.task number own) = some (g', events)) :
    ∃ t c, g.tasks[number]? = some t ∧ Passes g m t.address t.phase own c ∧ events = c.events ∧
      g' = { g.pass number c with
        bus := events.foldl (fun bus e => bus.publish m.eventId m.publishedAt e) g.bus } := by
  obtain ⟨⟨done, published⟩, hmove, hout⟩ := Option.map_eq_some_iff.1 h
  obtain ⟨t, ht, htask⟩ := Option.bind_eq_some_iff.1 hmove
  obtain ⟨c, hpasses, hdone⟩ := passes_of_stepTask htask
  obtain ⟨rfl, rfl⟩ := Prod.mk.inj hdone
  obtain ⟨rfl, rfl⟩ := Prod.mk.inj hout
  exact ⟨t, c, ht, hpasses, rfl, rfl⟩

theorem Occurrence.own?_cases (o : Occurrence) (i : Nat) :
    o.own? i = none ∨ ∃ m own, o = .step m (.task i own) := by
  cases o with
  | step m move =>
    cases move with
    | task number own =>
      by_cases hi : number = i
      · exact .inr ⟨m, own, by rw [hi]⟩
      · exact .inl (own?_task_eq_none.2 hi)
    | _ => exact .inl rfl
  | _ => exact .inl rfl

section Entries

variable {entries : List Entry}

theorem LeavesNothing.snoc {e : Entry} (h : LeavesNothing entries number)
    (hlast : ∀ m own, e.occurrence = .step m (.task number own) →
      e.events = [] ∧ ∃ p, e.after = e.before.setPhase number p) :
    LeavesNothing (entries ++ [e]) number := by
  intro e' he'
  rcases List.mem_append.1 he' with hold | hnew
  · exact h e' hold
  · obtain rfl := List.mem_singleton.1 hnew
    exact hlast

/-- What is not a step of the task does not count. -/
theorem LeavesNothing.snoc_other (h : LeavesNothing entries number) (hown : o.own? number = none) :
    LeavesNothing (entries ++ [⟨g, o, g', events⟩]) number := by
  refine h.snoc fun m own ho => ?_
  obtain rfl : o = _ := ho
  rw [Occurrence.own?_task] at hown
  cases hown

/-- To go to a phase and touch nothing that is shared leaves nothing behind. -/
theorem LeavesNothing.snoc_goTo (h : LeavesNothing entries number) (p : Phase) :
    LeavesNothing (entries ++ [⟨g, o, g.pass number (g.goTo p [] []), []⟩]) number :=
  h.snoc fun _ _ _ => ⟨rfl, p, (setPhase_eq_goTo g number p []).symm⟩

end Entries

/-! ## All that happens -/

/-- What the tasks that are not past their request, or whose request was turned away, have left behind. -/
structure Opening (config : Config) (c : Course) : Prop where
  config_eq : c.gateway.config = config
  waiting : ∀ number, (c.gateway.phase number).stage ≤ 1 → LeavesNothing c.entries number
  refused : ∀ e ∈ c.entries, ∀ m number uri protocols,
    e.occurrence = .step m (.task number (.receiveRequest uri protocols)) → Refuses config uri protocols →
      LeavesNothing c.entries number ∧ c.gateway.phase number = .ended

/-- A task whose request is turned away was not past it before, and one that has ended takes no step more. -/
theorem Opening.extend {c : Course} (hc : Opening config c) (h : o.happen c.gateway = some (g', events)) :
    Opening config ⟨g', c.entries ++ [⟨c.gateway, o, g', events⟩]⟩ := by
  have hbrings := brings_of_happen h
  constructor
  case config_eq => exact hbrings.config_eq.trans hc.config_eq
  case waiting =>
    intro i hstage
    rcases o.own?_cases i with hown | ⟨m, own, rfl⟩
    · have hsame := hbrings.phase_eq hown
      exact (hc.waiting i (hsame ▸ hstage)).snoc_other hown
    · obtain ⟨t, passage, ht, hpasses, rfl, rfl⟩ := passes_of_step h
      have hphase : passage.phase.stage ≤ 1 := by
        rw [← phase_pass_self ht passage]
        exact hstage
      obtain ⟨hbefore, hgoTo⟩ := hpasses.eq_goTo_of_stage_le hphase
      rw [hgoTo]
      exact (hc.waiting i (phase_of_task ht ▸ hbefore)).snoc_goTo passage.phase
  case refused =>
    intro e he m' i uri protocols hrequest hrefuses
    rcases List.mem_append.1 he with hold | hnew
    -- the request was turned away before
    · obtain ⟨hleaves, hended⟩ := hc.refused e hold m' i uri protocols hrequest hrefuses
      rcases o.own?_cases i with hown | ⟨m, own, rfl⟩
      · exact ⟨hleaves.snoc_other hown, (hbrings.phase_eq hown).trans hended⟩
      · obtain ⟨t, passage, ht, hpasses, -, -⟩ := passes_of_step h
        rw [← phase_of_task ht, hended] at hpasses
        exact (not_passes_ended hpasses).elim
    -- it is turned away now
    · obtain rfl := List.mem_singleton.1 hnew
      obtain rfl : o = .step m' (.task i (.receiveRequest uri protocols)) := hrequest
      obtain ⟨t, passage, ht, hpasses, rfl, rfl⟩ := passes_of_step h
      rw [← hc.config_eq] at hrefuses
      obtain ⟨hbefore, rfl⟩ := hpasses.eq_goTo_of_refuses hrefuses
      exact ⟨(hc.waiting i (phase_of_task ht ▸ hbefore)).snoc_goTo .ended, phase_pass_self ht _⟩

theorem opening_of (config : Config) (occurrences : List Occurrence) :
    Opening config (.of (new config) occurrences) := by
  refine Course.of_keeps ?_ (fun c o g' events hc h => hc.extend h) occurrences
  constructor
  case config_eq => rfl
  case waiting =>
    intro number _ e he
    cases he
  case refused =>
    intro e he
    cases he

open Handshake in
/-- **What becomes of a request.** For every request, and whatever settings it meets:

- it is turned away with 404 when the path is another than that of the settings, whatever the query is; with
  400 and the name of the parameter when the path is the same and the query has no identity; and is accepted
  with the identity of the query otherwise;
- when it is accepted, the response confirms the protocol, once and spelled in the one way, if a readable header
  of the request offers it, and is the same as before if none does;
- when a gateway turns it away, whatever else happens to the gateway, the task has ended, and none of its steps
  in all that happens draws an id, registers a session or publishes an event. -/
theorem request_decided (uri : Uri) (protocols : List String) :
    (∀ (response : Headers) (path parameter : String),
      (RefusedWith (accept uri protocols response path parameter) 404 "Not Found" ↔ uri.path ≠ path) ∧
      (RefusedWith (accept uri protocols response path parameter) 400
          ("missing '" ++ parameter ++ "' query parameter") ↔
        uri.path = path ∧ identity? uri.query parameter = none) ∧
      (∀ id, (∃ headers, accept uri protocols response path parameter = .ok (id, headers)) ↔
        uri.path = path ∧ identity? uri.query parameter = some id) ∧
      ∀ id headers, accept uri protocols response path parameter = .ok (id, headers) →
        Confirms protocols response headers ∧
          (response.values "sec-websocket-protocol" = [] →
            (headers.values "sec-websocket-protocol" = ["ocpp1.6"] ↔ Offered protocols))) ∧
    ∀ (config : Config) (occurrences : List Occurrence),
      ∀ e ∈ (Course.of (new config) occurrences).entries, ∀ m number,
        e.occurrence = .step m (.task number (.receiveRequest uri protocols)) →
          Refuses config uri protocols →
            LeavesNothing (Course.of (new config) occurrences).entries number ∧
              (Course.of (new config) occurrences).gateway.phase number = .ended := by
  refine ⟨fun response path parameter => ?_, fun config occurrences e he m number hrequest hrefuses => ?_⟩
  · have h := decides_accept uri protocols response path parameter
    refine ⟨h.notFound_iff, h.badRequest_iff, fun id => h.accepted_iff, fun id headers haccept => ?_⟩
    have hconfirms := h.confirms haccept
    exact ⟨hconfirms, hconfirms.iff_offered⟩
  · exact (opening_of config occurrences).refused e he m number uri protocols hrequest hrefuses

/-- A connection whose request is for another path. -/
def strayConnection : List Occurrence :=
  List.map (Occurrence.step (.still .epoch 0 "")) [
    .accept (.v4 ⟨192, 0, 2, 1⟩ 5000),
    .task 0 .subscribe,
    .task 0 (.receiveRequest ⟨"/", some "id=CP-1"⟩ []),
    .task 0 .drawId]

open Handshake in
/-- A request for another path is turned away and leaves nothing behind, and one that offers the protocol in
large letters is accepted. -/
theorem request_decided_stray :
    RefusedWith (accept ⟨"/", some "id=CP-1"⟩ [] [] "/ws" "id") 404 "Not Found" ∧
      LeavesNothing (Course.of (new {}) strayConnection).entries 0 ∧
      (Course.of (new {}) strayConnection).gateway.phase 0 = .ended ∧
      ∃ headers, accept ⟨"/ws", some "id=CP-1"⟩ ["mqtt, OCPP1.6"] [] "/ws" "id" = .ok ("CP-1", headers) ∧
        headers.values "sec-websocket-protocol" = ["ocpp1.6"] := by
  have hrefuses : Refuses {} ⟨"/", some "id=CP-1"⟩ [] := ⟨.unknownPath, by decide +kernel⟩
  have hthree : 2 < (Course.of (new {}) strayConnection).entries.length := by decide +kernel
  obtain ⟨hstray, hleaves⟩ := request_decided ⟨"/", some "id=CP-1"⟩ []
  obtain ⟨hquiet, hended⟩ :=
    hleaves {} strayConnection _ (List.getElem_mem hthree) (.still .epoch 0 "") 0 rfl hrefuses
  obtain ⟨hanswers, -⟩ := request_decided ⟨"/ws", some "id=CP-1"⟩ ["mqtt, OCPP1.6"]
  obtain ⟨-, -, haccepts, hconfirms⟩ := hanswers [] "/ws" "id"
  obtain ⟨headers, haccept⟩ := (haccepts "CP-1").2 ⟨rfl, by decide +kernel⟩
  have hoffered : Offered ["mqtt, OCPP1.6"] := offers_iff.1 (by decide +kernel)
  exact ⟨(hstray [] "/ws" "id").1.2 (by decide), hquiet, hended, headers, haccept,
    ((hconfirms _ _ haccept).2 rfl).2 hoffered⟩

end StationGateway.Gateway
