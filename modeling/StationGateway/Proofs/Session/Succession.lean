import StationGateway.Proofs.Session.Exchange

/-!
# Which session a charge point has

Sessions of a charge point come one after another, and the registry has to know which of them is the one
of now. Here it is used by one caller after another, and a note is made of each session that is
registered, of each removal, of each sign of activity and of each closing of all sessions.

**The law** (`Succession.registered_iff_latest`): the session of a charge point is the one that the notes
say was added last, unless it was removed or all were closed since (`Latest`); what every operation
answers follows from the notes; and a connection is asked to close exactly when another takes its place or
all are closed.

Connection ids are whatever the callers say. Two sessions may have one id, and a removal or a sign of
activity goes to the session of now if it has the id.
-/

namespace StationGateway

/-- What is done with the registry, or with the outbox of a connection. -/
inductive Succession.Operation where
  /-- A connection is made, and registered. -/
  | add (chargePointId : String) (connectionId : UInt64) (remoteAddress : Option SocketAddress)
      (connectedAt lastActivity : Timestamp)
  | remove (chargePointId : String) (connectionId : UInt64)
  | touch (chargePointId : String) (connectionId : UInt64) (now : Timestamp)
  | lookup (chargePointId : String)
  | sendTo (chargePointId text : String)
  | closeAll
  /-- A connection, or whoever has a handle of it, does something with its outbox. -/
  | use (key : Nat) (f : Outbox → Outbox)

/-- What is noted of an operation. -/
inductive Succession.Note where
  | added (s : Session)
  | removed (chargePointId : String) (connectionId : UInt64)
  | touched (chargePointId : String) (connectionId : UInt64) (now : Timestamp)
  | closedAll

/-- The connections, and what was noted so far, the oldest note first. -/
structure Succession where
  exchange : Exchange
  notes : List Succession.Note

namespace Succession

/-- Whether a session of a charge point with a connection id is over after an operation. -/
def Note.Ends (id : String) (connectionId : UInt64) : Note → Prop
  | .added s => s.chargePointId = id
  | .removed chargePointId number => chargePointId = id ∧ number = connectionId
  | .touched .. => False
  | .closedAll => True

/-- The activity of a session of a charge point with a connection id, if an operation records any. -/
def Note.activity? (id : String) (connectionId : UInt64) : Note → Option Timestamp
  | .touched chargePointId number now =>
    if chargePointId = id ∧ number = connectionId then some now else none
  | .added _ | .removed .. | .closedAll => none

/-- Whether a session is the one that a charge point has: the last that was added, if it is not over since
then. Its last activity is the last that was recorded since then. -/
def Latest (notes : List Note) (id : String) (s : Session) : Prop :=
  ∃ earlier first later, notes = earlier ++ .added first :: later ∧ first.chargePointId = id ∧
    (∀ n ∈ later, ¬ n.Ends id first.connectionId) ∧
    s = first.touch
      ((later.filterMap (·.activity? id first.connectionId)).getLast?.getD first.lastActivity)

/-- Whether an operation of the registry ends the connection with an outbox: another takes its place, or
it is taken out with all others. -/
def Operation.Replaces (notes : List Note) (key : Nat) : Operation → Prop
  | .add id _ _ _ _ => ∃ s, Latest notes id s ∧ s.outbox = key
  | .closeAll => ∃ id s, Latest notes id s ∧ s.outbox = key
  | .remove .. | .touch .. | .lookup _ | .sendTo .. | .use .. => False

/-- One operation more. -/
def extend (h : Succession) : Operation → Succession
  | .add id connectionId remoteAddress connectedAt lastActivity =>
    let (made, x) := h.exchange.connect id connectionId remoteAddress connectedAt
    let s := made.touch lastActivity
    ⟨(x.add s).2, h.notes ++ [.added s]⟩
  | .remove id connectionId =>
    ⟨(h.exchange.remove id connectionId).2, h.notes ++ [.removed id connectionId]⟩
  | .touch id connectionId now =>
    ⟨(h.exchange.touch id connectionId now).2, h.notes ++ [.touched id connectionId now]⟩
  | .lookup _ => h
  | .sendTo id text => ⟨(h.exchange.sendTo id text).2, h.notes⟩
  | .closeAll => ⟨h.exchange.closeAll.2, h.notes ++ [.closedAll]⟩
  | .use key f => ⟨h.exchange.modify key f, h.notes⟩

/-- What operations make of a registry without sessions. -/
def of (operations : List Operation) : Succession :=
  operations.foldl extend ⟨.empty, []⟩

/-! ## One note more -/

section Notes

variable {notes : List Note} {n : Note} {id : String} {s t : Session}

/-- What is recorded last is recorded by the last note, if that records anything. -/
theorem getLast?_activity_concat (later : List Note) (n : Note) (id : String) (connectionId : UInt64) :
    ((later ++ [n]).filterMap (·.activity? id connectionId)).getLast? =
      (n.activity? id connectionId).or (later.filterMap (·.activity? id connectionId)).getLast? := by
  rw [List.filterMap_append, List.getLast?_append]
  cases hactivity : n.activity? id connectionId with
  | none =>
    rw [List.filterMap_cons_none hactivity]
    rfl
  | some now =>
    rw [List.filterMap_cons_some hactivity]
    rfl

/-- A session is the one of now if it has just been added, or was the one before and is not over. -/
theorem latest_concat :
    Latest (notes ++ [n]) id s ↔
      (n = .added s ∧ s.chargePointId = id) ∨
        ∃ before, Latest notes id before ∧ ¬ n.Ends id before.connectionId ∧
          s = before.touch ((n.activity? id before.connectionId).getD before.lastActivity) := by
  constructor
  · rintro ⟨earlier, first, later, hnotes, hid, hstays, rfl⟩
    rcases List.eq_nil_or_concat later with rfl | ⟨later, last, rfl⟩
    · obtain ⟨-, hn⟩ := List.append_inj' hnotes rfl
      obtain rfl := (List.cons.inj hn).1
      exact .inl ⟨rfl, hid⟩
    · rw [List.concat_eq_append] at hnotes hstays ⊢
      rw [← List.cons_append, ← List.append_assoc] at hnotes
      obtain ⟨hearlier, hn⟩ := List.append_inj' hnotes rfl
      obtain rfl := (List.cons.inj hn).1
      have hbefore : Latest notes id (first.touch ((later.filterMap
          (·.activity? id first.connectionId)).getLast?.getD first.lastActivity)) :=
        ⟨earlier, first, later, hearlier, hid, fun m hm => hstays m (List.mem_append_left _ hm), rfl⟩
      refine .inr ⟨_, hbefore, hstays n (List.mem_append_right _ (List.mem_singleton_self n)), ?_⟩
      rw [getLast?_activity_concat, Option.getD_or]
      rfl
  · rintro (⟨rfl, hid⟩ | ⟨before, ⟨earlier, first, later, rfl, hid, hstays, rfl⟩, hn, rfl⟩)
    · exact ⟨notes, s, [], rfl, hid, fun m hm => (nomatch hm), rfl⟩
    · refine ⟨earlier, first, later ++ [n], by rw [List.append_assoc]; rfl, hid, ?_, ?_⟩
      · intro m hm
        rcases List.mem_append.1 hm with hm | hm
        · exact hstays m hm
        · obtain rfl := List.mem_singleton.1 hm
          exact hn
      · rw [getLast?_activity_concat, Option.getD_or]
        rfl

theorem latest_added :
    Latest (notes ++ [.added t]) id s ↔ if t.chargePointId = id then s = t else Latest notes id s := by
  rw [latest_concat]
  by_cases hid : t.chargePointId = id
  · rw [if_pos hid]
    constructor
    · rintro (⟨hn, -⟩ | ⟨before, -, hn, -⟩)
      · exact (Note.added.inj hn).symm
      · exact (hn hid).elim
    · rintro rfl
      exact .inl ⟨rfl, hid⟩
  · rw [if_neg hid]
    constructor
    · rintro (⟨hn, hs⟩ | ⟨before, hbefore, -, rfl⟩)
      · obtain rfl := Note.added.inj hn
        exact (hid hs).elim
      · exact hbefore
    · intro hs
      exact .inr ⟨s, hs, hid, rfl⟩

theorem latest_removed {chargePointId : String} {connectionId : UInt64} :
    Latest (notes ++ [.removed chargePointId connectionId]) id s ↔
      Latest notes id s ∧ ¬ (chargePointId = id ∧ connectionId = s.connectionId) := by
  rw [latest_concat]
  constructor
  · rintro (⟨hn, -⟩ | ⟨before, hbefore, hn, rfl⟩)
    · cases hn
    · exact ⟨hbefore, hn⟩
  · rintro ⟨hs, hn⟩
    exact .inr ⟨s, hs, hn, rfl⟩

theorem latest_touched {chargePointId : String} {connectionId : UInt64} {now : Timestamp} :
    Latest (notes ++ [.touched chargePointId connectionId now]) id s ↔
      ∃ before, Latest notes id before ∧
        s = if chargePointId = id ∧ connectionId = before.connectionId then before.touch now
          else before := by
  have hactivity (before : Session) :
      before.touch (((Note.touched chargePointId connectionId now).activity? id
          before.connectionId).getD before.lastActivity) =
        if chargePointId = id ∧ connectionId = before.connectionId then before.touch now else before := by
    show before.touch ((if chargePointId = id ∧ connectionId = before.connectionId then some now
      else none).getD before.lastActivity) = _
    split <;> rfl
  rw [latest_concat]
  constructor
  · rintro (⟨hn, -⟩ | ⟨before, hbefore, -, rfl⟩)
    · cases hn
    · exact ⟨before, hbefore, hactivity before⟩
  · rintro ⟨before, hbefore, rfl⟩
    exact .inr ⟨before, hbefore, fun hn => hn, (hactivity before).symm⟩

theorem not_latest_closedAll : ¬ Latest (notes ++ [.closedAll]) id s := by
  rw [latest_concat]
  rintro (⟨hn, -⟩ | ⟨before, -, hn, -⟩)
  · cases hn
  · exact hn trivial

end Notes

/-! ## What every operation keeps -/

/-- What holds after all operations: the notes tell which sessions there are, and no two charge points
have one connection. -/
structure Sound (h : Succession) : Prop where
  sessions_iff : ∀ (id : String) (s : Session),
    h.exchange.registry.sessions[id]? = some s ↔ Latest h.notes id s
  within : h.exchange.registry.Within (·.outbox < h.exchange.outboxes.size)
  apart : ∀ (id id' : String) (s s' : Session), h.exchange.registry.sessions[id]? = some s →
    h.exchange.registry.sessions[id']? = some s' → s.outbox = s'.outbox → id = id'

section Steps

variable {x y : Exchange} {notes : List Note} {s : Session} {id : String} {connectionId : UInt64}

theorem sound_new : Sound ⟨.empty, []⟩ := by
  have hnone (id : String) (s : Session) : ¬ Exchange.empty.registry.sessions[id]? = some s := by
    have hempty : Exchange.empty.registry.sessions[id]? = none := Std.ExtTreeMap.getElem?_empty
    rw [hempty]
    exact fun h => nomatch h
  refine ⟨fun id s => iff_of_false (hnone id s) ?_, Registry.within_empty _,
    fun id _ s _ hs => (hnone id s hs).elim⟩
  rintro ⟨earlier, first, later, hnotes, -⟩
  exact List.append_ne_nil_of_right_ne_nil earlier (List.cons_ne_nil _ _) hnotes.symm

/-- A connection that is registered is a new one. -/
theorem Sound.add (hs : Sound ⟨x, notes⟩) (hregistry : y.registry = x.registry)
    (hsize : y.outboxes.size = x.outboxes.size + 1) (hbox : s.outbox = x.outboxes.size) :
    Sound ⟨(y.add s).2, notes ++ [.added s]⟩ := by
  have hsessions (id : String) : (y.add s).2.registry.sessions[id]? =
      if s.chargePointId = id then some s else x.registry.sessions[id]? := by
    rw [Exchange.registry_add, Registry.sessions_insert, hregistry]
  have hbelow {id : String} {t : Session} (ht : x.registry.sessions[id]? = some t) :
      t.outbox < x.outboxes.size := (hs.within.of_sessions ht).2
  refine ⟨fun id t => ?_, ?_, fun id id' t t' ht ht' hkey => ?_⟩
  · show (y.add s).2.registry.sessions[id]? = some t ↔ _
    rw [hsessions, latest_added]
    split
    · exact ⟨fun h => (Option.some.inj h).symm, fun h => congrArg some h.symm⟩
    · exact hs.sessions_iff id t
  · show Registry.Within _ _
    rw [Exchange.registry_add, Exchange.size_add, hregistry, hsize]
    refine hs.within.insert s ?_ fun h hh => Nat.lt_succ_of_lt hh
    rw [hbox]
    exact Nat.lt_succ_self _
  · replace ht : (y.add s).2.registry.sessions[id]? = some t := ht
    replace ht' : (y.add s).2.registry.sessions[id']? = some t' := ht'
    rw [hsessions] at ht ht'
    split at ht <;> split at ht'
    · exact ‹s.chargePointId = id›.symm.trans ‹s.chargePointId = id'›
    · cases ht
      exact (Nat.ne_of_lt (hbelow ht') (hkey.symm.trans hbox)).elim
    · cases ht'
      exact (Nat.ne_of_lt (hbelow ht) (hkey.trans hbox)).elim
    · exact hs.apart id id' t t' ht ht' hkey

theorem Sound.remove (hs : Sound ⟨x, notes⟩) (id : String) (connectionId : UInt64) :
    Sound ⟨(x.remove id connectionId).2, notes ++ [.removed id connectionId]⟩ := by
  have hsessions {i : String} {t : Session} :
      (x.remove id connectionId).2.registry.sessions[i]? = some t ↔
        x.registry.sessions[i]? = some t ∧ ¬ (id = i ∧ connectionId = t.connectionId) := by
    show (x.registry.remove id connectionId).2.sessions[i]? = some t ↔ _
    rw [Registry.sessions_remove]
    split
    · rename_i hid
      rw [Option.filter_eq_some_iff, bne_iff_ne]
      exact and_congr_right fun _ => not_congr ⟨fun h => ⟨hid, h.symm⟩, fun h => h.2.symm⟩
    · rename_i hid
      exact (and_iff_left fun h => hid h.1).symm
  refine ⟨fun i t => ?_, ?_, fun i i' t t' ht ht' => ?_⟩
  · rw [latest_removed]
    exact hsessions.trans (and_congr_left fun _ => hs.sessions_iff i t)
  · exact hs.within.remove_any id connectionId
  · exact hs.apart i i' t t' (hsessions.1 ht).1 (hsessions.1 ht').1

theorem Sound.touch (hs : Sound ⟨x, notes⟩) (id : String) (connectionId : UInt64) (now : Timestamp) :
    Sound ⟨(x.touch id connectionId now).2, notes ++ [.touched id connectionId now]⟩ := by
  have hsessions {i : String} {t : Session} :
      (x.touch id connectionId now).2.registry.sessions[i]? = some t ↔
        ∃ before, x.registry.sessions[i]? = some before ∧
          t = if id = i ∧ connectionId = before.connectionId then before.touch now else before := by
    show (x.registry.touch id connectionId now).2.sessions[i]? = some t ↔ _
    rw [Registry.sessions_touch]
    split
    · rename_i hid
      rw [Option.map_eq_some_iff]
      refine exists_congr fun before => and_congr_right fun _ => ?_
      have hsame : (id = i ∧ connectionId = before.connectionId) ↔
          before.connectionId = connectionId := ⟨fun h => h.2.symm, fun h => ⟨hid, h.symm⟩⟩
      simp only [hsame]
      exact eq_comm
    · rename_i hid
      have hother (before : Session) : ¬ (id = i ∧ connectionId = before.connectionId) :=
        fun h => hid h.1
      simp only [hother, if_false]
      constructor
      · exact fun ht => ⟨t, ht, rfl⟩
      · rintro ⟨before, hbefore, rfl⟩
        exact hbefore
  have hbox {i : String} {t : Session}
      (ht : (x.touch id connectionId now).2.registry.sessions[i]? = some t) :
      ∃ before, x.registry.sessions[i]? = some before ∧ t.outbox = before.outbox := by
    obtain ⟨before, hbefore, rfl⟩ := hsessions.1 ht
    refine ⟨before, hbefore, ?_⟩
    split <;> rfl
  refine ⟨fun i t => ?_, hs.within.touch id connectionId now, fun i i' t t' ht ht' hkey => ?_⟩
  · rw [latest_touched]
    exact hsessions.trans (exists_congr fun before => and_congr_left fun _ => hs.sessions_iff i before)
  · obtain ⟨before, hbefore, hsame⟩ := hbox ht
    obtain ⟨before', hbefore', hsame'⟩ := hbox ht'
    exact hs.apart i i' before before' hbefore hbefore' (hsame.symm.trans (hkey.trans hsame'))

theorem sound_closeAll (x : Exchange) (notes : List Note) :
    Sound ⟨x.closeAll.2, notes ++ [.closedAll]⟩ := by
  have hnone (id : String) (t : Session) : ¬ x.closeAll.2.registry.sessions[id]? = some t := by
    rw [Exchange.sessions_closeAll, Std.ExtTreeMap.getElem?_empty]
    exact fun h => nomatch h
  exact ⟨fun id t => iff_of_false (hnone id t) not_latest_closedAll,
    Registry.within_of_sessions_eq_empty x.sessions_closeAll, fun id _ t _ ht => (hnone id t ht).elim⟩

/-- What is done with outboxes leaves the sessions as they are. -/
theorem Sound.congr (hs : Sound ⟨x, notes⟩) (hsame : x.SameSessions y) : Sound ⟨y, notes⟩ := by
  obtain ⟨registry, outboxes, holds⟩ := y
  obtain ⟨hregistry, hsize⟩ := hsame
  dsimp only at hregistry hsize
  subst hregistry
  refine ⟨hs.sessions_iff, ?_, hs.apart⟩
  show x.registry.Within (·.outbox < outboxes.size)
  rw [hsize]
  exact hs.within

theorem Sound.extend {h : Succession} (hs : h.Sound) (o : Operation) : (h.extend o).Sound := by
  cases o with
  | add id connectionId remoteAddress connectedAt lastActivity =>
    apply hs.add
    · rfl
    · exact Array.size_push _
    · rfl
  | remove id connectionId => exact hs.remove id connectionId
  | touch id connectionId now => exact hs.touch id connectionId now
  | lookup id => exact hs
  | sendTo id text => exact hs.congr (h.exchange.sameSessions_sendTo id text)
  | closeAll => exact sound_closeAll h.exchange h.notes
  | use key f => exact hs.congr (h.exchange.sameSessions_modify key f)

theorem sound_of (operations : List Operation) : (of operations).Sound := by
  apply List.foldlRecOn operations Succession.extend
  · exact sound_new
  · intro h hs o _
    exact hs.extend o

end Steps

/-! ## Who is asked to close -/

section Closing

variable {h : Succession} {o : Operation} {key : Nat}

/-- An operation asks those connections to close whose sessions it replaces, and no others. -/
theorem Sound.closeRequested_iff (hs : h.Sound) (huse : ∀ f, o ≠ .use key f) :
    ((h.extend o).exchange.outbox key).closeRequested = true ↔
      (h.exchange.outbox key).closeRequested = true ∨ o.Replaces h.notes key := by
  have hsame (hreplaces : ¬ o.Replaces h.notes key)
      (hkey : ((h.extend o).exchange.outbox key).closeRequested =
        (h.exchange.outbox key).closeRequested) :
      ((h.extend o).exchange.outbox key).closeRequested = true ↔
        (h.exchange.outbox key).closeRequested = true ∨ o.Replaces h.notes key := by
    rw [hkey, or_iff_left hreplaces]
  cases o with
  | add id connectionId remoteAddress connectedAt lastActivity =>
    -- the new connection has an outbox beyond those of the registered ones
    have hwithin : h.exchange.registry.Within (·.outbox < (h.exchange.outboxes.push {}).size) := by
      apply hs.within.mono
      intro k hk
      rw [Array.size_push]
      exact Nat.lt_succ_of_lt hk
    refine (Exchange.closeRequested_add_iff hwithin).trans (or_congr ?_ ?_)
    · rw [Exchange.closeRequested_push (x := h.exchange) rfl]
    · exact exists_congr fun s => and_congr_left fun _ => hs.sessions_iff id s
  | remove | touch | lookup => exact hsame not_false rfl
  | sendTo id text => exact hsame not_false (h.exchange.closeRequested_sendTo id text key)
  | closeAll =>
    refine (Exchange.closeRequested_closeAll_iff hs.within).trans (or_congr Iff.rfl ?_)
    exact exists_congr fun id => exists_congr fun s => and_congr_left fun _ => hs.sessions_iff id s
  | use k f =>
    have hne : k ≠ key := by
      rintro rfl
      exact huse f rfl
    exact hsame not_false (congrArg Outbox.closeRequested (Exchange.outbox_modify_of_ne hne f))

end Closing

/-! ## The law -/

section Law

variable {h : Succession} {id : String} {connectionId : UInt64}

theorem Sound.lookup_iff (hs : h.Sound) {handle : Session.Handle} :
    h.exchange.registry.lookup id = some handle ↔
      ∃ s, Latest h.notes id s ∧ s.toHandle = handle := by
  refine Option.map_eq_some_iff.trans (exists_congr fun s => and_congr_left fun _ => ?_)
  exact hs.sessions_iff id s

theorem Sound.mem_iff (hs : h.Sound) :
    id ∈ h.exchange.registry.sessions ↔ ∃ s, Latest h.notes id s := by
  rw [Std.ExtTreeMap.mem_iff_isSome_getElem?, Option.isSome_iff_exists]
  exact exists_congr fun s => hs.sessions_iff id s

/-- A charge point has a session with a connection id if the last one has it. -/
theorem Sound.current_iff (hs : h.Sound) :
    (h.exchange.registry.current? id connectionId).isSome = true ↔
      ∃ s, Latest h.notes id s ∧ s.connectionId = connectionId := by
  rw [Option.isSome_iff_exists]
  refine exists_congr fun s => ?_
  rw [Registry.current?, Option.filter_eq_some_iff, beq_iff_eq, hs.sessions_iff]

/-- **The session of a charge point is the one that was added last and is not over.** Whatever was done
with a registry that had no sessions:

- the session of a charge point is the one that the notes say was added last, with the activity recorded
  since, unless it was removed or all were closed since;
- adding gives back the session of now, removing and touching succeed exactly if the session of now has
  the connection id, and change nothing at all if they fail;
- an operation of the registry asks a connection to close exactly if it replaces its session by another of
  the same charge point or closes all, and no two charge points have one connection;
- closing all counts the sessions and leaves none;
- the list of charge points has each one that has a session once, and all other questions agree with it. -/
theorem registered_iff_latest (operations : List Operation) :
    let h := of operations
    let x := h.exchange
    (∀ (id : String) (s : Session), x.registry.sessions[id]? = some s ↔ Latest h.notes id s) ∧
      (∀ s old, (x.add s).1 = some old ↔ Latest h.notes s.chargePointId old) ∧
      (∀ id connectionId,
        ((x.remove id connectionId).1 = true ↔
          ∃ s, Latest h.notes id s ∧ s.connectionId = connectionId) ∧
        ((x.remove id connectionId).1 = false → (x.remove id connectionId).2 = x)) ∧
      (∀ id connectionId now,
        ((x.touch id connectionId now).1 = true ↔
          ∃ s, Latest h.notes id s ∧ s.connectionId = connectionId) ∧
        ((x.touch id connectionId now).1 = false → (x.touch id connectionId now).2 = x)) ∧
      (∀ o key, (∀ f, o ≠ .use key f) →
        (((h.extend o).exchange.outbox key).closeRequested = true ↔
          (x.outbox key).closeRequested = true ∨ o.Replaces h.notes key)) ∧
      (∀ id id' s s', Latest h.notes id s → Latest h.notes id' s' → s.outbox = s'.outbox → id = id') ∧
      (x.closeAll.1 = x.registry.count ∧ x.closeAll.2.registry.sessions = ∅) ∧
      x.registry.ids.Nodup ∧
      (∀ id, id ∈ x.registry.ids ↔ ∃ s, Latest h.notes id s) ∧
      x.registry.count = x.registry.ids.length ∧
      (x.registry.isEmpty = true ↔ x.registry.ids = []) ∧
      (∀ id, x.registry.isConnected id = true ↔ ∃ s, Latest h.notes id s) ∧
      ∀ id handle, x.registry.lookup id = some handle ↔
        ∃ s, Latest h.notes id s ∧ s.toHandle = handle := by
  intro h x
  have hs : h.Sound := sound_of operations
  refine ⟨hs.sessions_iff, ?_, ?_, ?_, ?_, ?_, ?_, ?_, ?_, ?_, ?_, ?_, ?_⟩
  · intro s old
    exact hs.sessions_iff s.chargePointId old
  · intro id connectionId
    constructor
    · show (x.registry.remove id connectionId).1 = true ↔ _
      rw [Registry.fst_remove]
      exact hs.current_iff
    · intro hfails
      exact congrArg (fun r => { x with registry := r }) (Registry.remove_of_fst _ _ _ hfails)
  · intro id connectionId now
    constructor
    · show (x.registry.touch id connectionId now).1 = true ↔ _
      rw [Registry.fst_touch]
      exact hs.current_iff
    · intro hfails
      exact congrArg (fun r => { x with registry := r }) (Registry.touch_of_fst _ _ _ hfails)
  · intro o key huse
    exact hs.closeRequested_iff huse
  · intro id id' s s' hlatest hlatest' hkey
    exact hs.apart id id' s s' ((hs.sessions_iff id s).2 hlatest) ((hs.sessions_iff id' s').2 hlatest')
      hkey
  · exact ⟨x.fst_closeAll, x.sessions_closeAll⟩
  · exact Std.ExtTreeMap.nodup_keys
  · intro id
    exact Std.ExtTreeMap.mem_keys.trans hs.mem_iff
  · exact Std.ExtTreeMap.length_keys.symm
  · show x.registry.sessions.isEmpty = true ↔ x.registry.sessions.keys = []
    rw [← Std.ExtTreeMap.isEmpty_keys, List.isEmpty_iff]
  · intro id
    exact Std.ExtTreeMap.contains_iff_mem.trans hs.mem_iff
  · intro id handle
    exact hs.lookup_iff

/-- A removal that comes too late leaves the newer session, also where somebody had closed all before. -/
example :
    let add (connectionId : UInt64) : Operation := .add "CP-1" connectionId none .epoch .epoch
    let h := of [add 1, .closeAll, add 2, add 3, .remove "CP-1" 2]
    h.exchange.registry.lookup "CP-1" = some ⟨"CP-1", 3, 2⟩ ∧
      h.exchange.outboxes.toList.map (·.closeRequested) = [true, true, false] := by
  decide +kernel

end Law

end Succession

end StationGateway
