import StationGateway.Proofs.Dispatcher.Reply
import StationGateway.Proofs.Text.Order

/-!
# The table of handlers

A dispatcher is made by registering handlers one after another, each for an action. It can be asked which
actions it has handlers for, and whether it has one for an action, and calls are taken to its handlers.

**The law** (`dispatch_ofList`): all three follow from the list of registrations, in which the last one for an
action counts.

What a handler does can be anything, and two handlers may reply the same, so which handlers are at work for a
call cannot be told from what becomes of it. The law therefore speaks of everything that the handlers could do
instead (`Works`): no handler is at work for a call if the same becomes of it in any case (`RunsNone`), and one
handler is, once, if in any case what becomes of it is what becomes of that handler's one piece of work
(`RunsOnly`).
-/

namespace StationGateway.Dispatcher

/-- The dispatcher with which handlers have been registered in this order. -/
def ofList (rs : List (String × Handler)) : Dispatcher :=
  rs.foldl (fun d (action, h) => d.register action h) empty

/-! ## Looking up -/

section Lookup

variable {rs before after : List (String × Handler)} {a : String} {h : Handler}

/-- Registrations for other actions do not count. -/
theorem handlers_foldl (ha : a ∉ rs.map Prod.fst) (d : Dispatcher) :
    (rs.foldl (fun d (action, h) => d.register action h) d).handlers[a]? = d.handlers[a]? := by
  induction rs generalizing d with
  | nil => rfl
  | cons r rs ih =>
    obtain ⟨hne, hrest⟩ := not_or.mp (mt List.mem_cons.mpr ha)
    rw [List.foldl_cons, ih hrest, handlers_register, if_neg (Ne.symm hne)]

theorem handlers_ofList_of_not_mem (ha : a ∉ rs.map Prod.fst) : (ofList rs).handlers[a]? = none :=
  (handlers_foldl ha empty).trans Std.ExtTreeMap.getElem?_empty

/-- The last registration for an action counts. -/
theorem handlers_ofList_append (ha : a ∉ after.map Prod.fst) :
    (ofList (before ++ (a, h) :: after)).handlers[a]? = some h := by
  unfold ofList
  rw [List.foldl_append, List.foldl_cons, handlers_foldl ha, handlers_register, if_pos rfl]

/-- Of the registrations for an action, one is the last. -/
theorem exists_last (ha : a ∈ rs.map Prod.fst) :
    ∃ before h after, rs = before ++ (a, h) :: after ∧ a ∉ after.map Prod.fst := by
  induction rs with
  | nil => cases ha
  | cons r rs ih =>
    by_cases hrest : a ∈ rs.map Prod.fst
    · obtain ⟨before, h, after, rfl, hafter⟩ := ih hrest
      exact ⟨r :: before, h, after, rfl, hafter⟩
    · obtain rfl : a = r.1 := (List.mem_cons.mp ha).resolve_right hrest
      exact ⟨[], r.2, rs, rfl, hrest⟩

theorem mem_ofList_iff : a ∈ (ofList rs).handlers ↔ a ∈ rs.map Prod.fst := by
  rw [Std.ExtTreeMap.mem_iff_isSome_getElem?]
  by_cases ha : a ∈ rs.map Prod.fst
  · obtain ⟨before, h, after, rfl, hafter⟩ := exists_last ha
    simp [handlers_ofList_append hafter]
  · simp [handlers_ofList_of_not_mem ha, ha]

theorem supports_ofList_iff : (ofList rs).supports a = true ↔ a ∈ rs.map Prod.fst :=
  mem_ofList_iff

theorem mem_actions_ofList_iff : a ∈ (ofList rs).actions ↔ a ∈ rs.map Prod.fst :=
  Std.ExtTreeMap.mem_keys.trans mem_ofList_iff

/-- The actions of a dispatcher are in the order of their bytes. -/
theorem pairwise_actions (d : Dispatcher) :
    d.actions.Pairwise fun a b => Text.utf8 a.toList < Text.utf8 b.toList := by
  refine Std.ExtTreeMap.ordered_keys.imp fun hlt => ?_
  exact Text.utf8_lt_utf8_iff.mpr (compareOfLessAndEq_eq_lt.mp hlt)

end Lookup

/-! ## What the handlers could do -/

/-- What each handler of a list could do, by its place in the list. -/
abbrev Works :=
  Nat → (h : Handler) → Context → h.Request → Handling Reply

/-- The same registrations, of handlers that read the same requests and do something else with them. -/
def doing (works : Works) (rs : List (String × Handler)) : List (String × Handler) :=
  rs.mapIdx fun place (action, h) => (action, { h with handle := works place h })

/-- What becomes of a call if the handlers that were registered do this. -/
def becomes (rs : List (String × Handler)) (ctx : Context) (payload : Json.Value) (works : Works) :
    Handling Frame :=
  (ofList (doing works rs)).dispatch ctx.chargePointId ctx.receivedAt
    (.call ctx.uniqueId ctx.action payload)

/-- What becomes of a reply or a refusal of a handler. -/
def conclude (ctx : Context) : Reply → Handling Frame
  | .error e => reject ctx.chargePointId ctx.uniqueId ctx.receivedAt e
  | .ok reply => return Frame.result ctx.uniqueId reply

/-- Whether no handler is at work for a call. -/
def RunsNone (rs : List (String × Handler)) (ctx : Context) (payload : Json.Value) : Prop :=
  ∀ works works', becomes rs ctx payload works = becomes rs ctx payload works'

/-- Whether one handler is at work for a call, once: the one at a place, with a request. -/
def RunsOnly (rs : List (String × Handler)) (ctx : Context) (payload : Json.Value) (place : Nat)
    (h : Handler) (request : h.Request) : Prop :=
  ∀ works, becomes rs ctx payload works = works place h ctx request >>= conclude ctx

section Doing

variable {rs before after : List (String × Handler)} {a : String} {h : Handler} (works : Works)

theorem map_fst_doing (rs : List (String × Handler)) : (doing works rs).map Prod.fst = rs.map Prod.fst := by
  refine List.ext_getElem? fun place => ?_
  simp only [doing, List.getElem?_map, List.getElem?_mapIdx, Option.map_map]
  rfl

/-- The handlers that were registered do what they do. -/
theorem doing_handle (rs : List (String × Handler)) : doing (fun _ h => h.handle) rs = rs := by
  refine List.mapIdx_eq_iff.mpr fun place => ?_
  cases rs[place]? <;> rfl

/-- Whatever the handlers do, the last one registered for an action is looked up. -/
theorem handlers_doing (ha : a ∉ after.map Prod.fst) :
    (ofList (doing works (before ++ (a, h) :: after))).handlers[a]? =
      some { h with handle := works before.length h } := by
  have hafter : a ∉ (doing (fun place => works (place + 1 + before.length)) after).map Prod.fst := by
    rw [map_fst_doing]
    exact ha
  unfold doing
  rw [List.mapIdx_append, List.mapIdx_cons, Nat.zero_add]
  exact handlers_ofList_append hafter

theorem handlers_doing_of_not_mem (ha : a ∉ rs.map Prod.fst) :
    (ofList (doing works rs)).handlers[a]? = none := by
  apply handlers_ofList_of_not_mem
  rw [map_fst_doing]
  exact ha

theorem becomes_handle (rs : List (String × Handler)) (ctx : Context) (payload : Json.Value) :
    becomes rs ctx payload (fun _ h => h.handle) =
      (ofList rs).dispatch ctx.chargePointId ctx.receivedAt (.call ctx.uniqueId ctx.action payload) := by
  unfold becomes
  rw [doing_handle]

end Doing

/-! ## Where a call is taken -/

/-- What a handler does with a call that is handed to it, and what becomes of its reply. -/
theorem follow_hand (h : Handler) (ctx : Context) (request : h.Request) :
    (Route.hand h ctx.action request).follow ctx.chargePointId ctx.uniqueId ctx.receivedAt =
      h.handle ctx request >>= conclude ctx := by
  refine congrArg (h.handle ctx request >>= ·) (funext fun reply => ?_)
  cases reply <;> rfl

section Runs

variable {rs before after : List (String × Handler)} {ctx : Context} {payload : Json.Value} {h : Handler}
  {place : Nat} {request : h.Request}

theorem runsNone_of_not_mem (ha : ctx.action ∉ rs.map Prod.fst) : RunsNone rs ctx payload := by
  intro works works'
  unfold becomes
  rw [dispatch_of_none _ _ _ (handlers_doing_of_not_mem works ha),
    dispatch_of_none _ _ _ (handlers_doing_of_not_mem works' ha)]

/-- A handler does not learn of what it cannot read. -/
theorem runsNone_of_misread {e : Mismatch} (ha : ctx.action ∉ after.map Prod.fst)
    (hread : h.read payload = .error e) : RunsNone (before ++ (ctx.action, h) :: after) ctx payload := by
  intro works works'
  unfold becomes
  rw [dispatch_of_misread _ _ _ (handlers_doing works ha) hread,
    dispatch_of_misread _ _ _ (handlers_doing works' ha) hread]

theorem runsOnly_of_read (ha : ctx.action ∉ after.map Prod.fst) (hread : h.read payload = .ok request) :
    RunsOnly (before ++ (ctx.action, h) :: after) ctx payload before.length h request := by
  intro works
  unfold becomes
  rw [dispatch_of_read _ _ _ (handlers_doing works ha) hread]
  exact follow_hand _ ctx _

/-- It shows what the one handler does that is at work. -/
theorem RunsOnly.not_runsNone (honly : RunsOnly rs ctx payload place h request) :
    ¬ RunsNone rs ctx payload := by
  intro hnone
  have hsame := hnone (fun _ _ _ _ => return .error (.internal "one")) fun _ _ _ _ =>
    return .error (.internal "another")
  rw [honly, honly, pure_bind, pure_bind] at hsame
  have hframe := congrArg (fun work => (work.run ⟨.empty, [], [], .still .epoch⟩).1) hsame
  obtain ⟨-, -, htext, -⟩ := Frame.callError.inj hframe
  exact absurd htext (by decide)

end Runs

/-- The frame that tells that an action has no handler. -/
theorem frame_unsupported (action uniqueId : String) :
    (unsupported action).frame uniqueId =
      .callError uniqueId "NotSupported" ("Action " ++ action ++ " not supported") .empty := by
  rfl

/-- **Calls are taken to the handler that was registered last for their action.** For every list of
registrations:

- the actions that the dispatcher names are those of the list, in the strict order of their bytes;
- it supports the actions of the list, and no other;
- no handler is at work for a call that is answered with the error that its action is not supported, exactly
  if the action is not supported;
- and for a call of any other action, the last one registered for it is. If that handler can read the payload it
  is at work, once, on what is known of the call, and no other is; what becomes of its reply becomes of the call.
  If it cannot, none is, and the call is refused for its payload. -/
theorem dispatch_ofList (rs : List (String × Handler)) :
    ((ofList rs).actions.Pairwise fun a b => Text.utf8 a.toList < Text.utf8 b.toList) ∧
    (∀ a, a ∈ (ofList rs).actions ↔ a ∈ rs.map Prod.fst) ∧
    (∀ a, (ofList rs).supports a = true ↔ a ∈ rs.map Prod.fst) ∧
    ∀ (ctx : Context) (payload : Json.Value),
      let answer := (ofList rs).dispatch ctx.chargePointId ctx.receivedAt
        (.call ctx.uniqueId ctx.action payload)
      ((RunsNone rs ctx payload ∧ ∀ desk, (answer.run desk).1 = .callError ctx.uniqueId "NotSupported"
          ("Action " ++ ctx.action ++ " not supported") .empty) ↔ ¬ (ofList rs).supports ctx.action = true) ∧
      ((ofList rs).supports ctx.action = true → ∃ before h after,
        rs = before ++ (ctx.action, h) :: after ∧ ctx.action ∉ after.map Prod.fst) ∧
      ∀ before h after, rs = before ++ (ctx.action, h) :: after → ctx.action ∉ after.map Prod.fst →
        (∀ e, h.read payload = .error e → RunsNone rs ctx payload ∧
          answer = reject ctx.chargePointId ctx.uniqueId ctx.receivedAt (.ofFrameError (.invalidPayload e))) ∧
        ∀ request, h.read payload = .ok request → RunsOnly rs ctx payload before.length h request ∧
          answer = h.handle ctx request >>= conclude ctx := by
  refine ⟨pairwise_actions _, fun a => mem_actions_ofList_iff, fun a => supports_ofList_iff, ?_⟩
  intro ctx payload answer
  refine ⟨⟨?_, ?_⟩, fun hsupports => exists_last (supports_ofList_iff.mp hsupports), ?_⟩
  · rintro ⟨hnone, hanswer⟩ hsupports
    obtain ⟨before, h, after, rfl, ha⟩ := exists_last (supports_ofList_iff.mp hsupports)
    cases hread : h.read payload with
    | error e =>
      have hrefused := hanswer ⟨.empty, [], [], .still .epoch⟩
      rw [show answer = _ from dispatch_of_misread _ _ _ (handlers_ofList_append ha) hread] at hrefused
      obtain ⟨-, hcode, -⟩ := Frame.callError.inj hrefused
      exact absurd hcode (show ¬ "FormationViolation" = "NotSupported" by decide)
    | ok request => exact (runsOnly_of_read ha hread).not_runsNone hnone
  · intro hsupports
    have ha := mt supports_ofList_iff.mpr hsupports
    refine ⟨runsNone_of_not_mem ha, fun desk => ?_⟩
    rw [show answer = _ from dispatch_of_none _ _ _ (handlers_ofList_of_not_mem ha)]
    exact frame_unsupported ctx.action ctx.uniqueId
  · rintro before h after rfl ha
    refine ⟨fun e hread => ?_, fun request hread => ?_⟩
    · exact ⟨runsNone_of_misread ha hread, dispatch_of_misread _ _ _ (handlers_ofList_append ha) hread⟩
    · have honly : RunsOnly (before ++ (ctx.action, h) :: after) ctx payload before.length h request :=
        runsOnly_of_read ha hread
      exact ⟨honly, (becomes_handle _ ctx payload).symm.trans (honly _)⟩

/-- The table at a handler that replaces another, which read other requests. -/
theorem dispatch_ofList_replaced :
    let rs : List (String × Handler) :=
      [("Heartbeat", .bootNotification 60), ("heartbeat", .statusNotification), ("Heartbeat", .heartbeat)]
    let ctx (action : String) : Context := ⟨"CP-1", "42", action, .epoch⟩
    (ofList rs).supports "Heart" = false ∧ RunsNone rs (ctx "Heart") .empty ∧
      (ofList rs).supports "Heartbeat" = true ∧ RunsOnly rs (ctx "Heartbeat") .empty 2 .heartbeat {} ∧
      RunsNone rs (ctx "Heartbeat") ⟨.null, trivial⟩ := by
  intro rs ctx
  obtain ⟨-, -, hsupports, hcall⟩ := dispatch_ofList rs
  have hheart : (ofList rs).supports "Heart" = false :=
    eq_false_of_ne_true (mt (hsupports "Heart").mp (by decide))
  have hheartbeat : (ofList rs).supports "Heartbeat" = true := (hsupports "Heartbeat").mpr (by decide)
  have hlast (payload : Json.Value) := (hcall (ctx "Heartbeat") payload).2.2
    [("Heartbeat", .bootNotification 60), ("heartbeat", .statusNotification)] .heartbeat [] rfl (by decide)
  refine ⟨hheart, ?_, hheartbeat, ?_, ?_⟩
  · exact ((hcall (ctx "Heart") .empty).1.mpr (by simp [ctx, hheart])).1
  · exact ((hlast .empty).2 {} rfl).1
  · exact ((hlast ⟨.null, trivial⟩).1 _ rfl).1

end StationGateway.Dispatcher
