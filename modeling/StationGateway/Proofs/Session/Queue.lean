import StationGateway.Proofs.Session.Exchange

/-!
# Queues and those who can add to them

What the operations on the registry and on outboxes leave alone. `Exchange.Quiet` says of an operation that it
moved no text, opened and closed no outbox, and let nobody go; everything that only registers sessions, takes
them out or asks connections to close is quiet. Sending and receiving move texts, but keep the holds, and
neither opens or closes an outbox.

`Exchange.hasSender_iff` says who can still queue a text: whoever is counted among the holds, and the sessions
that are registered.
-/

namespace StationGateway.Exchange

/-! ## What moves no texts -/

/-- Whether an operation left the texts that are queued, who takes texts, and the holds as they were. -/
structure Quiet (x y : Exchange) : Prop where
  holds : y.holds = x.holds
  size : y.outboxes.size = x.outboxes.size
  texts : ∀ key, (y.outbox key).texts = (x.outbox key).texts
  isOpen : ∀ key, (y.outbox key).isOpen = (x.outbox key).isOpen

section Quiet

variable {x y z : Exchange}

theorem Quiet.trans (hxy : x.Quiet y) (hyz : y.Quiet z) : x.Quiet z where
  holds := hyz.holds.trans hxy.holds
  size := hyz.size.trans hxy.size
  texts key := (hyz.texts key).trans (hxy.texts key)
  isOpen key := (hyz.isOpen key).trans (hxy.isOpen key)

theorem quiet_of_outboxes (hholds : y.holds = x.holds) (houtboxes : y.outboxes = x.outboxes) :
    x.Quiet y where
  holds := hholds
  size := congrArg Array.size houtboxes
  texts key := by rw [outbox, outbox, houtboxes]
  isOpen key := by rw [outbox, outbox, houtboxes]

/-- A change of one outbox is quiet if it leaves the texts of that outbox, and whether it takes more. -/
theorem quiet_modify {key : Nat} {f : Outbox → Outbox}
    (htexts : (f (x.outbox key)).texts = (x.outbox key).texts)
    (hopen : (f (x.outbox key)).isOpen = (x.outbox key).isOpen) : x.Quiet (x.modify key f) := by
  refine ⟨rfl, Array.size_modify, fun k => ?_, fun k => ?_⟩
  · obtain hk | ⟨rfl, hk⟩ := x.outbox_modify_or key f k
    · rw [hk]
    · rw [hk, htexts]
  · obtain hk | ⟨rfl, hk⟩ := x.outbox_modify_or key f k
    · rw [hk]
    · rw [hk, hopen]

theorem quiet_requestClose (x : Exchange) (h : Session.Handle) : x.Quiet (x.requestClose h) :=
  quiet_modify rfl rfl

theorem quiet_takeClose (x : Exchange) (key : Nat) : x.Quiet (x.takeClose key).2 :=
  quiet_modify rfl rfl

/-- Asking a session to close that gave its place away is quiet. -/
theorem Quiet.elim_requestClose (hy : x.Quiet y) (old : Option Session) :
    x.Quiet (old.elim y fun old => y.requestClose old.toHandle) := by
  cases old with
  | none => exact hy
  | some old => exact hy.trans (y.quiet_requestClose old.toHandle)

theorem quiet_add (x : Exchange) (s : Session) : x.Quiet (x.add s).2 := by
  have hinsert : x.Quiet (x.insert s).2 := quiet_of_outboxes rfl rfl
  exact hinsert.elim_requestClose (x.insert s).1

theorem quiet_closeOne (x : Exchange) (id : String) : x.Quiet (x.closeOne id).2 := by
  have htake : x.Quiet (x.take id).2 := quiet_of_outboxes rfl rfl
  exact htake.elim_requestClose (x.take id).1

theorem quiet_closeEach (x : Exchange) (ids : List String) : x.Quiet (x.closeEach ids).2 := by
  induction ids generalizing x with
  | nil => exact quiet_of_outboxes rfl rfl
  | cons id ids ih => exact (quiet_closeOne x id).trans (ih (x.closeOne id).2)

end Quiet

/-! ## Sending and receiving -/

section Texts

variable {x y : Exchange} {key : Nat}

theorem isOpen_send (x : Exchange) (h : Session.Handle) (text : String) (key : Nat) :
    ((x.send h text).2.outbox key).isOpen = (x.outbox key).isOpen := by
  rw [outbox_send]
  split <;> rfl

theorem holds_send (x : Exchange) (h : Session.Handle) (text : String) :
    (x.send h text).2.holds = x.holds := by
  unfold send
  split <;> rfl

/-- To take a text out of an outbox neither opens nor closes one. -/
theorem isOpen_receive {reception : Reception} (h : x.receive key = (reception, y)) (k : Nat) :
    (y.outbox k).isOpen = (x.outbox k).isOpen := by
  obtain ⟨text, texts, -, -, rfl⟩ | ⟨-, rfl⟩ := receive_cases h
  · obtain hk | ⟨rfl, hk⟩ := x.outbox_modify_or key _ k
    · rw [hk]
    · rw [hk]
  · rfl

theorem holds_receive {reception : Reception} (h : x.receive key = (reception, y)) :
    y.holds = x.holds := by
  obtain ⟨text, texts, -, -, rfl⟩ | ⟨-, rfl⟩ := receive_cases h
  · rfl
  · rfl

/-- A text for a charge point is sent through the handle of its session. -/
theorem sendTo_of_some {id : String} {s : Session} (h : x.registry.sessions[id]? = some s)
    (text : String) : x.sendTo id text = x.send s.toHandle text := by
  rw [sendTo, Registry.lookup, h]
  rfl

theorem sendTo_of_none {id : String} (h : x.registry.sessions[id]? = none) (text : String) :
    x.sendTo id text = (.error (.notConnected id), x) := by
  rw [sendTo, Registry.lookup, h]
  rfl

/-- An outbox has a sender as long as somebody holds it or a session is registered that has it. -/
theorem hasSender_iff (x : Exchange) (key : Nat) :
    x.hasSender key = true ↔
      key ∈ x.holds ∨ ∃ (id : String) (s : Session), x.registry.sessions[id]? = some s ∧ s.outbox = key := by
  have hregistered : x.registry.sessions.toList.any (·.2.outbox == key) = true ↔
      ∃ (id : String) (s : Session), x.registry.sessions[id]? = some s ∧ s.outbox = key := by
    simp only [List.any_eq_true, Prod.exists, Std.ExtTreeMap.mem_toList_iff_getElem?_eq_some, beq_iff_eq]
  rw [hasSender, Bool.or_eq_true, List.contains_iff_mem, hregistered]

end Texts

end StationGateway.Exchange
