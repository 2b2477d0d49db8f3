import StationGateway.Session.Exchange
import Std.Data.ExtTreeMap.Lemmas

/-!
# The registry and the outboxes

What each operation of the registry does to the session of one charge point, and to its handle, and what
the operations on outboxes do to a request to close.

`Registry.Within` says that every registered session stands under its own charge point and has some
property of its handle. A law for each operation says what the property becomes. The one for removing is
the reason why a connection that takes itself out is no longer registered, whatever was registered in
its place: its session has its charge point and its connection id.

`Numbered` says that connection ids tell those apart who draw them, as they do until they are used up.
-/

namespace StationGateway.Registry

section Sessions

variable (r : Registry) (s : Session) (chargePointId id : String) (connectionId : UInt64)

theorem sessions_insert :
    (r.insert s).2.sessions[id]? = if s.chargePointId = id then some s else r.sessions[id]? := by
  simp only [insert, Std.ExtTreeMap.getElem?_insert, Std.LawfulEqOrd.compare_eq_iff_eq]

theorem sessions_take :
    (r.take chargePointId).2.sessions[id]? = if chargePointId = id then none else r.sessions[id]? := by
  simp only [take, Std.ExtTreeMap.getElem?_erase, Std.LawfulEqOrd.compare_eq_iff_eq]

theorem sessions_remove :
    (r.remove chargePointId connectionId).2.sessions[id]? =
      if chargePointId = id then r.sessions[id]?.filter (·.connectionId != connectionId)
      else r.sessions[id]? := by
  unfold remove current?
  by_cases hid : chargePointId = id
  · subst hid
    rw [if_pos rfl]
    cases hs : r.sessions[chargePointId]? with
    | none => exact hs
    | some s =>
      by_cases hconnection : s.connectionId = connectionId
      · simp [Option.filter_some, hconnection]
      · simp [Option.filter_some, hconnection, hs]
  · rw [if_neg hid]
    split
    · simp only [Std.ExtTreeMap.getElem?_erase, Std.LawfulEqOrd.compare_eq_iff_eq, if_neg hid]
    · rfl

theorem sessions_touch (now : Timestamp) :
    (r.touch chargePointId connectionId now).2.sessions[id]? =
      if chargePointId = id then
        r.sessions[id]?.map fun s => if s.connectionId = connectionId then s.touch now else s
      else r.sessions[id]? := by
  unfold touch current?
  by_cases hid : chargePointId = id
  · subst hid
    rw [if_pos rfl]
    cases hs : r.sessions[chargePointId]? with
    | none => exact hs
    | some s =>
      by_cases hconnection : s.connectionId = connectionId
      · simp [Option.filter_some, hconnection]
      · simp [Option.filter_some, hconnection, hs]
  · rw [if_neg hid]
    split
    · simp only [Std.ExtTreeMap.getElem?_insert, Std.LawfulEqOrd.compare_eq_iff_eq, if_neg hid]
    · rfl

theorem nextId_remove : (r.remove chargePointId connectionId).2.nextId = r.nextId := by
  unfold remove
  split <;> rfl

/-! ## Handles -/

theorem lookup_insert :
    (r.insert s).2.lookup id = if s.chargePointId = id then some s.toHandle else r.lookup id := by
  unfold lookup
  rw [sessions_insert, apply_ite (Option.map _)]
  rfl

theorem lookup_take :
    (r.take chargePointId).2.lookup id = if chargePointId = id then none else r.lookup id := by
  unfold lookup
  rw [sessions_take, apply_ite (Option.map _)]
  rfl

theorem lookup_remove :
    (r.remove chargePointId connectionId).2.lookup id =
      if chargePointId = id then (r.lookup id).filter (·.connectionId != connectionId)
      else r.lookup id := by
  unfold lookup
  rw [sessions_remove, apply_ite (Option.map _), Option.filter_map]
  rfl

/-- Whether a session is removed is whether the charge point has one with the connection id. -/
theorem remove_fst :
    (r.remove chargePointId connectionId).1 =
      (r.lookup chargePointId).any (·.connectionId == connectionId) := by
  unfold remove current? lookup
  cases r.sessions[chargePointId]? with
  | none => rfl
  | some s =>
    rw [Option.filter_some, Option.map_some, Option.any_some]
    split
    · rename_i found hfound
      rw [(Option.ite_none_right_eq_some.1 hfound).1]
    · rename_i hnone
      cases hconnection : s.connectionId == connectionId with
      | true => rw [hconnection] at hnone; cases hnone
      | false => rfl

theorem fst_remove : (r.remove chargePointId connectionId).1 =
    (r.current? chargePointId connectionId).isSome := by
  unfold remove
  cases r.current? chargePointId connectionId <;> rfl

/-- Where there is no session to remove, nothing changes. -/
theorem remove_of_fst (h : (r.remove chargePointId connectionId).1 = false) :
    (r.remove chargePointId connectionId).2 = r := by
  rw [fst_remove, Option.isSome_eq_false_iff, Option.isNone_iff_eq_none] at h
  rw [remove, h]

theorem fst_touch (now : Timestamp) : (r.touch chargePointId connectionId now).1 =
    (r.current? chargePointId connectionId).isSome := by
  unfold touch
  cases r.current? chargePointId connectionId <;> rfl

/-- Where there is no session to touch, nothing changes. -/
theorem touch_of_fst {now : Timestamp} (h : (r.touch chargePointId connectionId now).1 = false) :
    (r.touch chargePointId connectionId now).2 = r := by
  rw [fst_touch, Option.isSome_eq_false_iff, Option.isNone_iff_eq_none] at h
  rw [touch, h]

/-- Recording activity leaves all handles as they are. -/
theorem lookup_touch (now : Timestamp) :
    (r.touch chargePointId connectionId now).2.lookup id = r.lookup id := by
  unfold lookup
  rw [sessions_touch]
  split
  · rw [Option.map_map]
    congr 1
    funext s
    show (if s.connectionId = connectionId then s.touch now else s).toHandle = s.toHandle
    split <;> rfl
  · rfl

end Sessions

/-! ## What all registered sessions have in common -/

/-- Every registered session stands under its charge point, and its handle has the property. -/
def Within (r : Registry) (p : Session.Handle → Prop) : Prop :=
  ∀ id h, r.lookup id = some h → h.chargePointId = id ∧ p h

section Within

variable {r : Registry} {p q : Session.Handle → Prop}

theorem within_empty (p : Session.Handle → Prop) : empty.Within p := by
  intro id h hlookup
  have hnone : empty.lookup id = none := by
    show Option.map _ (∅ : Std.ExtTreeMap String Session)[id]? = none
    rw [Std.ExtTreeMap.getElem?_empty]
    rfl
  rw [hnone] at hlookup
  cases hlookup

theorem Within.mono (hr : r.Within p) (hq : ∀ h, p h → q h) : r.Within q := by
  intro id h hlookup
  obtain ⟨hid, hp⟩ := hr id h hlookup
  exact ⟨hid, hq h hp⟩

theorem Within.insert (hr : r.Within p) (s : Session) (hs : q s.toHandle) (hq : ∀ h, p h → q h) :
    (r.insert s).2.Within q := by
  intro id h hlookup
  rw [lookup_insert] at hlookup
  split at hlookup
  · rename_i hid
    cases hlookup
    exact ⟨hid, hs⟩
  · exact (hr.mono hq) id h hlookup

theorem Within.take (hr : r.Within p) (chargePointId : String) : (r.take chargePointId).2.Within p := by
  intro id h hlookup
  rw [lookup_take] at hlookup
  split at hlookup
  · cases hlookup
  · exact hr id h hlookup

/-- A session that is taken out by its own charge point and connection id is not registered any more. -/
theorem Within.remove (hr : r.Within p) (gone : Session.Handle) (hq : ∀ h, p h → h ≠ gone → q h) :
    (r.remove gone.chargePointId gone.connectionId).2.Within q := by
  intro id h hlookup
  rw [lookup_remove] at hlookup
  split at hlookup
  · obtain ⟨hlookup, hconnection⟩ := Option.filter_eq_some_iff.1 hlookup
    obtain ⟨hid, hp⟩ := hr id h hlookup
    refine ⟨hid, hq h hp fun heq => ?_⟩
    rw [heq, bne_self_eq_false] at hconnection
    cases hconnection
  · rename_i hid
    obtain ⟨hh, hp⟩ := hr id h hlookup
    refine ⟨hh, hq h hp fun heq => ?_⟩
    rw [heq] at hh
    exact hid hh

theorem Within.touch (hr : r.Within p) (chargePointId : String) (connectionId : UInt64)
    (now : Timestamp) : (r.touch chargePointId connectionId now).2.Within p := by
  intro id h hlookup
  rw [lookup_touch] at hlookup
  exact hr id h hlookup

/-- What a removal leaves was there before. -/
theorem Within.remove_any (hr : r.Within p) (chargePointId : String) (connectionId : UInt64) :
    (r.remove chargePointId connectionId).2.Within p := by
  intro id h hlookup
  rw [lookup_remove] at hlookup
  split at hlookup
  · exact hr id h (Option.filter_eq_some_iff.1 hlookup).1
  · exact hr id h hlookup

theorem within_of_sessions_eq_empty (hr : r.sessions = ∅) : r.Within p := by
  intro id h hlookup
  rw [lookup, hr, Std.ExtTreeMap.getElem?_empty] at hlookup
  cases hlookup

theorem Within.of_sessions (hr : r.Within p) {id : String} {s : Session}
    (hs : r.sessions[id]? = some s) : s.chargePointId = id ∧ p s.toHandle := by
  refine hr id s.toHandle ?_
  unfold lookup
  rw [hs]
  rfl

/-- Where no handle has the property, nothing is registered. -/
theorem Within.sessions_eq_empty (hr : r.Within p) (hp : ∀ h, ¬ p h) : r.sessions = ∅ := by
  refine Std.ExtTreeMap.ext_getElem? fun id => ?_
  rw [Std.ExtTreeMap.getElem?_empty]
  cases hs : r.sessions[id]? with
  | none => rfl
  | some s => exact (hp _ (hr.of_sessions hs).2).elim

end Within

end StationGateway.Registry

namespace StationGateway.Exchange

/-! ## Outboxes -/

/-- Who is asked to close, and has an outbox, knows. -/
theorem closeRequested_requestClose {x : Exchange} {h : Session.Handle}
    (hsize : h.outbox < x.outboxes.size) :
    ((x.requestClose h).outbox h.outbox).closeRequested = true := by
  unfold outbox requestClose modify
  rw [Array.getElem?_modify, if_pos rfl, Array.getElem?_eq_getElem hsize]
  rfl

/-- What is done with one outbox is done with that one alone. -/
theorem outbox_modify {x : Exchange} {key : Nat} (hsize : key < x.outboxes.size) (f : Outbox → Outbox)
    (k : Nat) : (x.modify key f).outbox k = if key = k then f (x.outbox k) else x.outbox k := by
  unfold outbox modify
  rw [Array.getElem?_modify]
  split
  · rename_i hk
    rw [← hk, Array.getElem?_eq_getElem hsize]
    rfl
  · rfl

theorem outbox_modify_of_ne {x : Exchange} {key k : Nat} (hne : key ≠ k) (f : Outbox → Outbox) :
    (x.modify key f).outbox k = x.outbox k := by
  unfold outbox modify
  rw [Array.getElem?_modify, if_neg hne]

/-- After one outbox was changed, each is as it was or is the one that was changed. -/
theorem outbox_modify_or (x : Exchange) (key : Nat) (f : Outbox → Outbox) (k : Nat) :
    (x.modify key f).outbox k = x.outbox k ∨ key = k ∧ (x.modify key f).outbox k = f (x.outbox k) := by
  by_cases hk : key = k
  · subst hk
    by_cases hsize : key < x.outboxes.size
    · rw [outbox_modify hsize, if_pos rfl]
      exact .inr ⟨rfl, rfl⟩
    · left
      unfold outbox modify
      rw [Array.getElem?_modify, if_pos rfl, Array.getElem?_eq_none (Nat.le_of_not_lt hsize)]
      rfl
  · exact .inl (outbox_modify_of_ne hk f)

/-- Only an outbox that there is was asked to close. -/
theorem lt_size_of_closeRequested {x : Exchange} {key : Nat}
    (hkey : (x.outbox key).closeRequested = true) : key < x.outboxes.size := by
  apply Nat.lt_of_not_le
  intro hsize
  unfold outbox at hkey
  rw [Array.getElem?_eq_none hsize] at hkey
  cases hkey

/-- A request to close stays, unless the outbox loses it. -/
theorem closeRequested_modify {x : Exchange} {key k : Nat} {f : Outbox → Outbox}
    (hk : (x.outbox k).closeRequested = true)
    (hf : key = k → (f (x.outbox k)).closeRequested = true) :
    ((x.modify key f).outbox k).closeRequested = true := by
  by_cases hkey : key = k
  · subst hkey
    rw [outbox_modify (lt_size_of_closeRequested hk), if_pos rfl]
    exact hf rfl
  · rw [outbox_modify_of_ne hkey]
    exact hk

/-- To ask one connection to close takes back no request to another. -/
theorem closeRequested_requestClose_of {x : Exchange} {key : Nat} (h : Session.Handle)
    (hkey : (x.outbox key).closeRequested = true) :
    ((x.requestClose h).outbox key).closeRequested = true :=
  closeRequested_modify hkey fun _ => rfl

/-- Where no text is queued, none is received, and nothing changes. -/
theorem receive_of_nil {x : Exchange} {key : Nat} (h : (x.outbox key).texts = []) :
    x.receive key = (if x.hasSender key then .pending else .ended, x) := by
  rw [receive]
  simp only [h]

/-- The oldest of the texts that are queued is received. -/
theorem receive_of_cons {x : Exchange} {key : Nat} {text : String} {texts : List String}
    (h : (x.outbox key).texts = text :: texts) :
    x.receive key = (.text text, x.modify key fun _ => { x.outbox key with texts := texts }) := by
  rw [receive]
  simp only [h]

/-- A connection that asks for a text gets the oldest, which leaves its outbox, or gets none. -/
theorem receive_cases {x y : Exchange} {key : Nat} {reception : Reception}
    (h : x.receive key = (reception, y)) :
    (∃ text texts, (x.outbox key).texts = text :: texts ∧ reception = .text text ∧
        y = x.modify key fun _ => { x.outbox key with texts := texts }) ∨
      ((∀ text, reception ≠ .text text) ∧ y = x) := by
  cases htexts : (x.outbox key).texts with
  | nil =>
    obtain ⟨rfl, rfl⟩ := Prod.mk.inj ((receive_of_nil htexts).symm.trans h)
    refine .inr ⟨fun text => ?_, rfl⟩
    split <;> exact Reception.noConfusion
  | cons text texts =>
    obtain ⟨rfl, rfl⟩ := Prod.mk.inj ((receive_of_cons htexts).symm.trans h)
    exact .inl ⟨text, texts, rfl, rfl, rfl⟩

/-- To take a text out of an outbox takes back no request to close. -/
theorem closeRequested_receive {x y : Exchange} {key k : Nat} {reception : Reception}
    (h : x.receive key = (reception, y)) (hk : (x.outbox k).closeRequested = true) :
    (y.outbox k).closeRequested = true := by
  obtain ⟨text, texts, -, -, rfl⟩ | ⟨-, rfl⟩ := receive_cases h
  · apply closeRequested_modify hk
    rintro rfl
    exact hk
  · exact hk

theorem closeRequested_requestClose_iff {x : Exchange} {h : Session.Handle} {key : Nat}
    (hsize : h.outbox < x.outboxes.size) :
    ((x.requestClose h).outbox key).closeRequested = true ↔
      (x.outbox key).closeRequested = true ∨ h.outbox = key := by
  unfold requestClose
  rw [outbox_modify hsize]
  split
  · exact iff_of_true rfl (.inr ‹_›)
  · exact (or_iff_left ‹_›).symm

/-- A new outbox leaves the others as they are. -/
theorem outbox_push {x y : Exchange} {key : Nat} {box : Outbox} (hkey : key < x.outboxes.size)
    (hpush : y.outboxes = x.outboxes.push box) : y.outbox key = x.outbox key := by
  unfold outbox
  rw [hpush, Array.getElem?_push_lt hkey, Array.getElem?_eq_getElem hkey]

/-- A new connection has not been asked to close. -/
theorem closeRequested_push {x y : Exchange} (hpush : y.outboxes = x.outboxes.push {}) (key : Nat) :
    (y.outbox key).closeRequested = (x.outbox key).closeRequested := by
  unfold outbox
  rw [hpush, Array.getElem?_push]
  split
  · rename_i hkey
    rw [hkey, Array.getElem?_eq_none (Nat.le_refl _)]
    rfl
  · rfl

/-- Only an outbox that there is takes texts. -/
theorem lt_size_of_isOpen {x : Exchange} {key : Nat} (hopen : (x.outbox key).isOpen = true) :
    key < x.outboxes.size := by
  apply Nat.lt_of_not_le
  intro hsize
  unfold outbox at hopen
  rw [Array.getElem?_eq_none hsize] at hopen
  cases hopen

/-- A text is queued in the outbox that it is sent to, if that takes texts. -/
theorem outbox_send (x : Exchange) (h : Session.Handle) (text : String) (k : Nat) :
    (x.send h text).2.outbox k =
      if h.outbox = k ∧ (x.outbox k).isOpen = true then
        { x.outbox k with texts := (x.outbox k).texts ++ [text] }
      else x.outbox k := by
  unfold send Outbox.push?
  by_cases hopen : (x.outbox h.outbox).isOpen = true
  · simp only [hopen, if_true]
    rw [outbox_modify (lt_size_of_isOpen hopen)]
    by_cases hk : h.outbox = k
    · subst hk
      simp [hopen]
    · simp [hk]
  · have hclosed : ¬ (h.outbox = k ∧ (x.outbox k).isOpen = true) := by
      rintro ⟨rfl, hk⟩
      exact hopen hk
    simp only [hopen, hclosed]
    rfl

/-- To queue a text asks nobody to close. -/
theorem closeRequested_send (x : Exchange) (h : Session.Handle) (text : String) (key : Nat) :
    ((x.send h text).2.outbox key).closeRequested = (x.outbox key).closeRequested := by
  rw [outbox_send]
  split <;> rfl

theorem closeRequested_sendTo (x : Exchange) (chargePointId text : String) (key : Nat) :
    ((x.sendTo chargePointId text).2.outbox key).closeRequested = (x.outbox key).closeRequested := by
  unfold sendTo
  split
  · exact x.closeRequested_send ..
  · rfl

/-- A connection that is made and registered has the next outbox, and is in the place of whatever the
charge point had. -/
theorem insert_connect {x y z : Exchange} {id : String} {connectionId : UInt64}
    {address : Option SocketAddress} {now : Timestamp} {session : Session} {old : Option Session}
    (hconnect : x.connect id connectionId address now = (session, y))
    (hinsert : y.insert session = (old, z)) :
    session.toHandle = ⟨id, connectionId, x.outboxes.size⟩ ∧
      old.map Session.toHandle = x.registry.lookup id ∧
      z.registry = (x.registry.insert session).2 ∧ z.outboxes = x.outboxes.push {} := by
  obtain ⟨rfl, rfl⟩ := Prod.mk.inj hconnect
  obtain ⟨rfl, rfl⟩ := Prod.mk.inj hinsert
  exact ⟨rfl, rfl, rfl, rfl⟩

/-- Whether an operation left the registered sessions alone, and made no outbox. -/
structure SameSessions (x x' : Exchange) : Prop where
  registry_eq : x'.registry = x.registry
  size_eq : x'.outboxes.size = x.outboxes.size

theorem sameSessions_modify (x : Exchange) (key : Nat) (f : Outbox → Outbox) :
    x.SameSessions (x.modify key f) :=
  ⟨rfl, Array.size_modify⟩

theorem sameSessions_receive {x x' : Exchange} {key : Nat} {reception : Reception}
    (h : x.receive key = (reception, x')) : x.SameSessions x' := by
  obtain ⟨text, texts, -, -, rfl⟩ | ⟨-, rfl⟩ := receive_cases h
  · exact x.sameSessions_modify ..
  · exact ⟨rfl, rfl⟩

theorem sameSessions_send (x : Exchange) (h : Session.Handle) (text : String) :
    x.SameSessions (x.send h text).2 := by
  unfold send
  split
  · exact x.sameSessions_modify ..
  · exact ⟨rfl, rfl⟩

theorem sameSessions_sendTo (x : Exchange) (chargePointId text : String) :
    x.SameSessions (x.sendTo chargePointId text).2 := by
  unfold sendTo
  split
  · exact x.sameSessions_send ..
  · exact ⟨rfl, rfl⟩

/-! ## Queued texts -/

/-- What an attempt to queue a text through a handle adds to an outbox. -/
def queued (x : Exchange) (key : Nat) (h : Session.Handle) (text : String) : List String :=
  if h.outbox = key ∧ (x.send h text).1.isOk = true then [text] else []

theorem isOk_send (x : Exchange) (h : Session.Handle) (text : String) :
    (x.send h text).1.isOk = (x.outbox h.outbox).isOpen := by
  unfold send Outbox.push?
  by_cases hopen : (x.outbox h.outbox).isOpen = true
  · simp only [hopen, if_true]
    rfl
  · simp only [hopen]
    rfl

theorem texts_send (x : Exchange) (h : Session.Handle) (text : String) (key : Nat) :
    ((x.send h text).2.outbox key).texts = (x.outbox key).texts ++ x.queued key h text := by
  rw [outbox_send, queued, isOk_send]
  by_cases hkey : h.outbox = key
  · subst hkey
    by_cases hopen : (x.outbox h.outbox).isOpen = true
    · simp [hopen]
    · simp [hopen]
  · simp [hkey]

/-- To ask a connection to close leaves the texts that are queued. -/
theorem texts_requestClose (x : Exchange) (h : Session.Handle) (key : Nat) :
    ((x.requestClose h).outbox key).texts = (x.outbox key).texts := by
  unfold requestClose
  obtain hkey | ⟨-, hkey⟩ := x.outbox_modify_or h.outbox Outbox.requestClose key
  · rw [hkey]
  · rw [hkey, Outbox.requestClose]

/-- The text that a connection gets is the oldest one in its outbox. -/
theorem texts_receive {x y : Exchange} {key : Nat} {text : String}
    (h : x.receive key = (.text text, y)) : (x.outbox key).texts = text :: (y.outbox key).texts := by
  obtain ⟨first, texts, htexts, hfirst, rfl⟩ | ⟨hnone, -⟩ := receive_cases h
  · cases hfirst
    have hsize : key < x.outboxes.size := by
      apply Nat.lt_of_not_le
      intro hsize
      unfold outbox at htexts
      rw [Array.getElem?_eq_none hsize] at htexts
      cases htexts
    rw [outbox_modify hsize, if_pos rfl, htexts]
  · exact absurd rfl (hnone text)

theorem outbox_receive_of_ne {x y : Exchange} {key k : Nat} {reception : Reception}
    (h : x.receive key = (reception, y)) (hne : key ≠ k) : y.outbox k = x.outbox k := by
  obtain ⟨text, texts, -, -, rfl⟩ | ⟨-, rfl⟩ := receive_cases h
  · exact outbox_modify_of_ne hne _
  · rfl

/-! ## Sessions that end -/

section Ending

variable {x : Exchange} {s : Session} {id chargePointId : String} {ids : List String} {key : Nat}

theorem registry_add (x : Exchange) (s : Session) : (x.add s).2.registry = (x.registry.insert s).2 := by
  show (Option.elim x.registry.sessions[s.chargePointId]? _ _ : Exchange).registry = _
  cases x.registry.sessions[s.chargePointId]? <;> rfl

theorem size_add (x : Exchange) (s : Session) : (x.add s).2.outboxes.size = x.outboxes.size := by
  show (Option.elim x.registry.sessions[s.chargePointId]? _ _ : Exchange).outboxes.size = _
  cases x.registry.sessions[s.chargePointId]? with
  | none => rfl
  | some old => exact Array.size_modify

/-- Registering a session asks the one whose place it takes to close, and no other. -/
theorem closeRequested_add_iff (hx : x.registry.Within (·.outbox < x.outboxes.size)) :
    ((x.add s).2.outbox key).closeRequested = true ↔
      (x.outbox key).closeRequested = true ∨
        ∃ old, x.registry.sessions[s.chargePointId]? = some old ∧ old.outbox = key := by
  show ((Option.elim x.registry.sessions[s.chargePointId]? (x.insert s).2
    fun old => (x.insert s).2.requestClose old.toHandle).outbox key).closeRequested = true ↔ _
  cases hold : x.registry.sessions[s.chargePointId]? with
  | none => simp [outbox, insert]
  | some old =>
    have hsize : old.outbox < (x.insert s).2.outboxes.size := (hx.of_sessions hold).2
    refine (closeRequested_requestClose_iff hsize).trans (or_congr Iff.rfl ?_)
    simp

theorem registry_closeOne (x : Exchange) (id : String) :
    (x.closeOne id).2.registry = (x.registry.take id).2 := by
  show (Option.elim x.registry.sessions[id]? _ _ : Exchange).registry = _
  cases x.registry.sessions[id]? <;> rfl

theorem size_closeOne (x : Exchange) (id : String) :
    (x.closeOne id).2.outboxes.size = x.outboxes.size := by
  show (Option.elim x.registry.sessions[id]? _ _ : Exchange).outboxes.size = _
  cases x.registry.sessions[id]? with
  | none => rfl
  | some old => exact Array.size_modify

theorem closeRequested_closeOne_iff (hx : x.registry.Within (·.outbox < x.outboxes.size)) :
    ((x.closeOne id).2.outbox key).closeRequested = true ↔
      (x.outbox key).closeRequested = true ∨
        ∃ old, x.registry.sessions[id]? = some old ∧ old.outbox = key := by
  show ((Option.elim x.registry.sessions[id]? (x.take id).2
    fun old => (x.take id).2.requestClose old.toHandle).outbox key).closeRequested = true ↔ _
  cases hold : x.registry.sessions[id]? with
  | none => simp [outbox, take]
  | some old =>
    have hsize : old.outbox < (x.take id).2.outboxes.size := (hx.of_sessions hold).2
    refine (closeRequested_requestClose_iff hsize).trans (or_congr Iff.rfl ?_)
    simp

theorem within_closeOne (hx : x.registry.Within (·.outbox < x.outboxes.size)) (id : String) :
    (x.closeOne id).2.registry.Within (·.outbox < (x.closeOne id).2.outboxes.size) := by
  rw [registry_closeOne, size_closeOne]
  exact hx.take id

theorem sessions_closeEach :
    (x.closeEach ids).2.registry.sessions[chargePointId]? =
      if chargePointId ∈ ids then none else x.registry.sessions[chargePointId]? := by
  induction ids generalizing x with
  | nil => exact (if_neg (List.not_mem_nil)).symm
  | cons id ids ih =>
    show ((x.closeOne id).2.closeEach ids).2.registry.sessions[chargePointId]? = _
    rw [ih, registry_closeOne, Registry.sessions_take]
    by_cases hid : id = chargePointId
    · rw [if_pos hid, ite_self, if_pos (List.mem_cons.2 (.inl hid.symm))]
    · have hne : ¬ chargePointId = id := fun h => hid h.symm
      simp only [if_neg hid, List.mem_cons, hne, false_or]

/-- Closing sessions one after another counts those that there were. -/
theorem fst_closeEach (hnodup : ids.Nodup)
    (hall : ∀ id ∈ ids, x.registry.sessions[id]?.isSome = true) :
    (x.closeEach ids).1 = ids.length := by
  induction ids generalizing x with
  | nil => rfl
  | cons id ids ih =>
    obtain ⟨hnew, hnodup⟩ := List.nodup_cons.1 hnodup
    have hrest : ∀ i ∈ ids, (x.closeOne id).2.registry.sessions[i]?.isSome = true := by
      intro i hi
      have hne : id ≠ i := fun h => hnew (h ▸ hi)
      rw [registry_closeOne, Registry.sessions_take, if_neg hne]
      exact hall i (List.mem_cons_of_mem _ hi)
    show ((x.closeOne id).2.closeEach ids).1 + x.registry.sessions[id]?.isSome.toNat = _
    rw [ih hnodup hrest, hall id (List.mem_cons_self ..)]
    rfl

/-- Closing sessions one after another asks those to close that there were, and no other. -/
theorem closeRequested_closeEach_iff (hx : x.registry.Within (·.outbox < x.outboxes.size)) :
    ((x.closeEach ids).2.outbox key).closeRequested = true ↔
      (x.outbox key).closeRequested = true ∨
        ∃ id ∈ ids, ∃ old, x.registry.sessions[id]? = some old ∧ old.outbox = key := by
  induction ids generalizing x with
  | nil => simp [closeEach]
  | cons id ids ih =>
    show (((x.closeOne id).2.closeEach ids).2.outbox key).closeRequested = true ↔ _
    rw [ih (within_closeOne hx id), closeRequested_closeOne_iff hx, registry_closeOne, or_assoc]
    refine or_congr Iff.rfl ⟨?_, ?_⟩
    · rintro (hfirst | ⟨i, hi, old, hold, hkey⟩)
      · exact ⟨id, List.mem_cons_self .., hfirst⟩
      · rw [Registry.sessions_take] at hold
        split at hold
        · cases hold
        · exact ⟨i, List.mem_cons_of_mem _ hi, old, hold, hkey⟩
    · rintro ⟨i, hi, old, hold, hkey⟩
      by_cases hid : id = i
      · subst hid
        exact .inl ⟨old, hold, hkey⟩
      · have hi : i ∈ ids := (List.mem_cons.1 hi).resolve_left fun h => hid h.symm
        refine .inr ⟨i, hi, old, ?_, hkey⟩
        rw [Registry.sessions_take, if_neg hid]
        exact hold

theorem isSome_of_mem_ids (h : id ∈ x.registry.ids) : x.registry.sessions[id]?.isSome = true :=
  Std.ExtTreeMap.mem_iff_isSome_getElem?.1 (Std.ExtTreeMap.mem_keys.1 h)

/-- Closing all sessions leaves none. -/
theorem sessions_closeAll (x : Exchange) : x.closeAll.2.registry.sessions = ∅ := by
  refine Std.ExtTreeMap.ext_getElem? fun id => ?_
  rw [Std.ExtTreeMap.getElem?_empty]
  refine sessions_closeEach.trans ?_
  split
  · rfl
  · rename_i hid
    have hnone : id ∉ x.registry.sessions := fun h => hid (Std.ExtTreeMap.mem_keys.2 h)
    exact Std.ExtTreeMap.getElem?_eq_none hnone

/-- Closing all sessions counts them. -/
theorem fst_closeAll (x : Exchange) : x.closeAll.1 = x.registry.count := by
  have hcount : (x.closeEach x.registry.ids).1 = x.registry.ids.length := by
    apply fst_closeEach Std.ExtTreeMap.nodup_keys
    intro id hid
    exact isSome_of_mem_ids hid
  exact hcount.trans Std.ExtTreeMap.length_keys

theorem closeRequested_closeAll_iff (hx : x.registry.Within (·.outbox < x.outboxes.size)) :
    (x.closeAll.2.outbox key).closeRequested = true ↔
      (x.outbox key).closeRequested = true ∨
        ∃ (id : String) (old : Session),
          x.registry.sessions[id]? = some old ∧ old.outbox = key := by
  refine (closeRequested_closeEach_iff hx).trans (or_congr Iff.rfl ⟨?_, ?_⟩)
  · rintro ⟨id, -, hold⟩
    exact ⟨id, hold⟩
  · rintro ⟨id, old, hold, hkey⟩
    have hmem : id ∈ x.registry.ids := by
      refine Std.ExtTreeMap.mem_keys.2 (Std.ExtTreeMap.mem_iff_isSome_getElem?.2 ?_)
      rw [hold]
      rfl
    exact ⟨id, hmem, old, hold, hkey⟩

end Ending

end StationGateway.Exchange

namespace StationGateway

/-! ## Connection ids -/

/-- Connection ids are given out in turn: no two tasks have one, and the next is beyond all that were
drawn. -/
structure Numbered (nextId : UInt64) (drawn : Nat) (has : Nat → UInt64 → Prop) : Prop where
  next_eq : nextId = UInt64.ofNat (drawn + 1)
  le_drawn : ∀ i n, has i n → n.toNat ≤ drawn
  distinct : ∀ i j n, has i n → has j n → i = j

namespace Numbered

variable {nextId : UInt64} {drawn : Nat} {has has' : Nat → UInt64 → Prop}

theorem start : Numbered 1 0 fun _ _ => False where
  next_eq := rfl
  le_drawn _ _ h := h.elim
  distinct _ _ _ h := h.elim

theorem mono (h : Numbered nextId drawn has) (hsub : ∀ i n, has' i n → has i n) :
    Numbered nextId drawn has' where
  next_eq := h.next_eq
  le_drawn i n hi := h.le_drawn i n (hsub i n hi)
  distinct i j n hi hj := h.distinct i j n (hsub i n hi) (hsub j n hj)

/-- As long as the connection ids are not used up, the next one is new. -/
theorem draw (h : Numbered nextId drawn has) (hlimit : drawn + 1 < UInt64.size) (number : Nat)
    (hcases : ∀ i n, has' i n → has i n ∨ i = number ∧ n = nextId) :
    Numbered (nextId + 1) (drawn + 1) has' := by
  have hsize : nextId.toNat = drawn + 1 := by
    rw [h.next_eq]
    exact UInt64.toNat_ofNat_of_lt hlimit
  have hfresh (i : Nat) : ¬ has i nextId := by
    intro hi
    have hle := h.le_drawn i _ hi
    omega
  refine ⟨?_, fun i n hi => ?_, fun i j n hi hj => ?_⟩
  · rw [h.next_eq]
    exact (UInt64.ofNat_add (drawn + 1) 1).symm
  · rcases hcases i n hi with hold | ⟨-, rfl⟩
    · exact Nat.le_succ_of_le (h.le_drawn i n hold)
    · exact Nat.le_of_eq hsize
  · rcases hcases i n hi with hiold | ⟨rfl, rfl⟩
    · rcases hcases j n hj with hjold | ⟨-, rfl⟩
      · exact h.distinct i j n hiold hjold
      · exact (hfresh i hiold).elim
    · rcases hcases j _ hj with hjold | ⟨rfl, -⟩
      · exact (hfresh j hjold).elim
      · rfl

end Numbered

end StationGateway
