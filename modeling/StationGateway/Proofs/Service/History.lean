import Mathlib.Data.Finset.Card
import StationGateway.Proofs.Service.Answered

/-!
# What the records say of the past

A gateway answers the texts of any number of charge points, in any order, while its service begins to
fail and recovers at any time. A history keeps each text that was answered, with its reply, and what the
clock showed meanwhile.

**The law** (`History.records_of_results`): the record of a charge point is made of those of its own texts
that were answered with a result, and of nothing else. It has the status of the last one and the
particulars of the last boot notification among them (`recordOf`); there is no record without such a
text; and a fresh service to which only these texts are sent has the same record.

The clock is read for each change of a record, several times for one text, and nothing is said of how
its readings compare. Both the last change of a record and the last sign of life of its charge point bear
the last reading that the last text took for the record (`Sent.keptAt`).
-/

namespace StationGateway

/-! ## The record that texts make -/

/-- The boot notification that a text is, and when the charge point was accepted. -/
def Sent.bootedAt? (a : Sent) : Option (BootNotification.Request × Timestamp) :=
  a.boot?.map fun r => (r, a.readings.get 1)

/-- The last boot notification among some texts, and when the charge point was accepted. -/
def lastBoot? (texts : List Sent) : Option (BootNotification.Request × Timestamp) :=
  (texts.filterMap Sent.bootedAt?).getLast?

/-- The last time that the clock is read for the record, if the text is given a result: the second
reading, at which a boot notification is accepted and any other text counts as a sign of life, or the
third if there was no record before the sign of life. -/
def Sent.keptAt (a : Sent) (isKnown : Bool) : Timestamp :=
  if a.boot?.isSome || isKnown then a.readings.get 1 else a.readings.get 2

/-- The record of a charge point, made of the texts that it was given results for: none without a text,
and otherwise the status and the time of the last one, and the particulars of the last boot notification.
A charge point that sent none is still pending. -/
def recordOf (id : String) (texts : List Sent) : Option ChargePoint :=
  texts.getLast?.map fun last => {
    id := id
    vendor := (lastBoot? texts).map (·.1.vendor)
    model := (lastBoot? texts).map (·.1.model)
    serialNumber := (lastBoot? texts).bind (·.1.serialNumber)
    firmwareVersion := (lastBoot? texts).bind (·.1.firmwareVersion)
    status := last.status
    registrationStatus := if (lastBoot? texts).isSome then .accepted else .pending
    lastHeartbeat := some (last.keptAt (1 < texts.length))
    registeredAt := (lastBoot? texts).map (·.2)
    updatedAt := last.keptAt (1 < texts.length) }

section Records

variable {id : String} {texts : List Sent} {a : Sent}

theorem lastBoot?_concat (texts : List Sent) (a : Sent) :
    lastBoot? (texts ++ [a]) = a.bootedAt?.or (lastBoot? texts) := by
  unfold lastBoot?
  rw [List.filterMap_append, List.getLast?_append]
  congr 1
  cases hboot : a.bootedAt? with
  | none => rw [List.filterMap_cons_none hboot]; rfl
  | some boot => rw [List.filterMap_cons_some hboot]; rfl

/-- One text more. -/
theorem recordOf_concat (ha : a.chargePointId = id) :
    recordOf id (texts ++ [a]) = some (a.next (recordOf id texts)) := by
  subst ha
  unfold recordOf Sent.next Sent.keptAt
  rw [List.getLast?_concat, lastBoot?_concat, Option.map_some, List.length_append, List.length_singleton]
  unfold Sent.bootedAt?
  cases hboot : a.boot? with
  | some r =>
    rw [Sent.status_of_boot? hboot]
    rfl
  | none =>
    cases hlast : texts.getLast? with
    | none =>
      rw [List.getLast?_eq_none_iff.1 hlast]
      rfl
    | some last =>
      have hknown : 1 < texts.length + 1 :=
        Nat.succ_lt_succ (List.length_pos_of_mem (List.mem_of_getLast? hlast))
      rw [decide_eq_true hknown]
      rfl

/-- There is a record where there is a text. -/
theorem isSome_recordOf : (recordOf id texts).isSome ↔ ∃ a, a ∈ texts := by
  unfold recordOf
  rw [Option.isSome_map, List.getLast?_isSome]
  exact ⟨List.exists_mem_of_ne_nil texts, fun ⟨a, ha⟩ => List.ne_nil_of_mem ha⟩

/-- Keeping texts one after another makes each charge point's record of its own texts. -/
theorem getElem?_foldl_keep (texts : List Sent) (id : String) :
    (texts.foldl Sent.keep ∅)[id]? = recordOf id (texts.filter (·.chargePointId = id)) := by
  induction texts using List.reverseRecOn with
  | nil => exact Std.ExtTreeMap.getElem?_empty
  | append_singleton texts a ih =>
    rw [List.foldl_concat, Sent.keep, Std.ExtTreeMap.getElem?_insert, List.filter_append]
    by_cases ha : a.chargePointId = id
    · have hone : [a].filter (·.chargePointId = id) = [a] := List.filter_cons_of_pos (decide_eq_true ha)
      rw [if_pos (Std.LawfulEqOrd.compare_eq_iff_eq.2 ha), hone, recordOf_concat ha, ← ih, ha]
    · have hnone : [a].filter (·.chargePointId = id) = [] :=
        List.filter_cons_of_neg fun h => ha (of_decide_eq_true h)
      rw [if_neg fun h => ha (Std.LawfulEqOrd.compare_eq_iff_eq.1 h), hnone, List.append_nil, ih]

end Records

/-! ## Histories -/

/-- What can happen to a service: a text comes, or it begins or ceases to fail. -/
inductive Occurrence where
  | text (sent : Sent)
  | fault (fault : Option String)

/-- A service, and the texts that were answered with it, the oldest first. -/
structure History where
  service : Service
  answered : List Answered

namespace History

/-- One occurrence more. -/
def extend (interval : UInt32) (h : History) : Occurrence → History
  | .text sent =>
    let (reply, desk) :=
      ((Dispatcher.standard interval).handleText sent.chargePointId sent.receivedAt sent.text).run
        ⟨h.service, [], [], sent.readings⟩
    ⟨desk.service, h.answered ++ [⟨sent, reply⟩]⟩
  | .fault fault => ⟨{ h.service with fault := fault }, h.answered⟩

/-- The history of a service that knew no charge point. -/
def of (interval : UInt32) (occurrences : List Occurrence) : History :=
  occurrences.foldl (extend interval) ⟨.empty, []⟩

/-- The texts that were answered with a result. -/
def results (h : History) : List Sent :=
  (h.answered.filter (·.isResult)).map (·.toSent)

/-- The texts of one charge point that were answered with a result. -/
def resultsOf (h : History) (id : String) : List Sent :=
  h.results.filter (·.chargePointId = id)

/-- What holds of every history: the records are what keeping the results makes, and each text was
answered by a service. -/
structure Faithful (interval : UInt32) (h : History) : Prop where
  records_eq : h.service.records = h.results.foldl Sent.keep ∅
  answered_by : ∀ a ∈ h.answered, ∃ before after, a.By interval before after

variable {interval : UInt32} {h : History}

/-- A text more is a result more if it was answered with one. -/
theorem results_concat (service : Service) (answered : List Answered) (a : Answered) :
    results ⟨service, answered ++ [a]⟩ =
      results ⟨service, answered⟩ ++ if a.isResult then [a.toSent] else [] := by
  unfold results
  rw [List.filter_append, List.map_append]
  congr 1
  cases hresult : a.isResult with
  | true => rw [List.filter_cons_of_pos hresult]; rfl
  | false => rw [List.filter_cons_of_neg (Bool.eq_false_iff.1 hresult)]; rfl

theorem Faithful.text (hs : h.Faithful interval) {a : Answered} {after : Service}
    (ha : a.By interval h.service after) : Faithful interval ⟨after, h.answered ++ [a]⟩ where
  records_eq := by
    rw [results_concat, ha.service_eq]
    cases a.isResult with
    | true =>
      rw [if_pos rfl, if_pos rfl, List.foldl_concat]
      exact congrArg (Sent.keep · a.toSent) hs.records_eq
    | false =>
      rw [if_neg Bool.false_ne_true, if_neg Bool.false_ne_true, List.append_nil]
      exact hs.records_eq
  answered_by := by
    intro b hb
    rcases List.mem_append.1 hb with hb | hb
    · exact hs.answered_by b hb
    · obtain rfl := List.mem_singleton.1 hb
      exact ⟨h.service, after, ha⟩

theorem Faithful.extend (hs : h.Faithful interval) (o : Occurrence) :
    (h.extend interval o).Faithful interval := by
  cases o with
  | text sent => exact hs.text ⟨_, rfl, rfl⟩
  | fault fault => exact ⟨hs.records_eq, hs.answered_by⟩

theorem faithful_of (interval : UInt32) (occurrences : List Occurrence) :
    (of interval occurrences).Faithful interval := by
  apply List.foldlRecOn occurrences (History.extend interval)
  · exact ⟨rfl, fun a ha => nomatch ha⟩
  · intro h hs o _
    exact hs.extend o

/-! ## Sending results again -/

theorem extend_text {a : Answered} {after : Service} (ha : a.By interval h.service after) :
    h.extend interval (.text a.toSent) = ⟨after, h.answered ++ [a]⟩ := by
  obtain ⟨desk, hrun, rfl⟩ := ha
  unfold extend
  dsimp only
  rw [hrun]

/-- Texts that were given results are given results when they are sent to a service that does not fail. -/
theorem results_foldl_text {texts : List Sent}
    (hgiven : ∀ sent ∈ texts, ∃ reply before after,
      (⟨sent, reply⟩ : Answered).By interval before after ∧ (⟨sent, reply⟩ : Answered).isResult = true)
    (hfault : h.service.fault = none) :
    ((texts.map Occurrence.text).foldl (extend interval) h).results = h.results ++ texts := by
  induction texts generalizing h with
  | nil => exact (List.append_nil _).symm
  | cons sent texts ih =>
    obtain ⟨reply, before, after, hby, hresult⟩ := hgiven sent (List.mem_cons_self ..)
    obtain ⟨again, next, hnext, hagain⟩ := hby.again hresult hfault
    have hnone : next.fault = none := by
      rw [hnext.service_eq]
      split <;> exact hfault
    have hone : results ⟨next, h.answered ++ [⟨sent, again⟩]⟩ = h.results ++ [sent] := by
      rw [results_concat, if_pos hagain]
      rfl
    rw [List.map_cons, List.foldl_cons, extend_text hnext,
      ih (fun other hother => hgiven other (List.mem_cons_of_mem _ hother)) hnone, hone,
      List.append_assoc]
    rfl

/-! ## The records -/

theorem getElem?_records (interval : UInt32) (occurrences : List Occurrence) (id : String) :
    (of interval occurrences).service.records[id]? =
      recordOf id ((of interval occurrences).resultsOf id) := by
  rw [(faithful_of interval occurrences).records_eq]
  exact getElem?_foldl_keep ..

theorem mem_resultsOf {id : String} {sent : Sent} :
    sent ∈ h.resultsOf id ↔
      ∃ a ∈ h.answered, (a.chargePointId = id ∧ a.isResult = true) ∧ a.toSent = sent := by
  unfold resultsOf results
  rw [List.mem_filter, decide_eq_true_iff, List.mem_map]
  constructor
  · rintro ⟨⟨a, ha, rfl⟩, hid⟩
    obtain ⟨ha, hresult⟩ := List.mem_filter.1 ha
    exact ⟨a, ha, ⟨hid, hresult⟩, rfl⟩
  · rintro ⟨a, ha, ⟨hid, hresult⟩, rfl⟩
    exact ⟨⟨a, List.mem_filter.2 ⟨ha, hresult⟩, rfl⟩, hid⟩

theorem mem_records (interval : UInt32) (occurrences : List Occurrence) (id : String) :
    id ∈ (of interval occurrences).service.records ↔
      ∃ a ∈ (of interval occurrences).answered, a.chargePointId = id ∧ a.isResult = true := by
  rw [Std.ExtTreeMap.mem_iff_isSome_getElem?, getElem?_records, isSome_recordOf]
  constructor
  · rintro ⟨sent, hsent⟩
    obtain ⟨a, ha, hof, -⟩ := mem_resultsOf.1 hsent
    exact ⟨a, ha, hof⟩
  · rintro ⟨a, ha, hof⟩
    exact ⟨a.toSent, mem_resultsOf.2 ⟨a, ha, hof, rfl⟩⟩

/-- There is a record for each charge point that was given a result, and no other. -/
theorem size_records (interval : UInt32) (occurrences : List Occurrence) :
    (of interval occurrences).service.records.size =
      ((of interval occurrences).results.map (·.chargePointId)).toFinset.card := by
  rw [← Std.ExtTreeMap.length_keys, ← List.toFinset_card_of_nodup Std.ExtTreeMap.nodup_keys]
  congr 1
  ext id
  rw [List.mem_toFinset, List.mem_toFinset, Std.ExtTreeMap.mem_keys,
    Std.ExtTreeMap.mem_iff_isSome_getElem?, getElem?_records, isSome_recordOf, List.mem_map]
  refine exists_congr fun sent => ?_
  rw [resultsOf, List.mem_filter, decide_eq_true_iff]

/-- Sending one charge point's results again makes the same record of it. -/
theorem getElem?_records_again (interval : UInt32) (occurrences : List Occurrence) (id : String) :
    (of interval (((of interval occurrences).resultsOf id).map .text)).service.records[id]? =
      (of interval occurrences).service.records[id]? := by
  have hgiven : ∀ sent ∈ (of interval occurrences).resultsOf id, ∃ reply before after,
      (⟨sent, reply⟩ : Answered).By interval before after ∧
        (⟨sent, reply⟩ : Answered).isResult = true := by
    intro sent hsent
    obtain ⟨a, ha, ⟨-, hresult⟩, rfl⟩ := mem_resultsOf.1 hsent
    obtain ⟨before, after, hby⟩ := (faithful_of interval occurrences).answered_by a ha
    exact ⟨a.reply, before, after, hby, hresult⟩
  have hresults : (of interval (((of interval occurrences).resultsOf id).map .text)).results =
      (of interval occurrences).resultsOf id := results_foldl_text hgiven rfl
  have hown : ((of interval occurrences).resultsOf id).filter (·.chargePointId = id) =
      (of interval occurrences).resultsOf id :=
    List.filter_eq_self.2 fun sent hsent => (List.mem_filter.1 hsent).2
  rw [getElem?_records, getElem?_records]
  congr 1
  rw [resultsOf, hresults, hown]

/-- **The records are made of the results, each charge point's of its own.** In every history of a service
that knew no charge point: the record of a charge point is what its results make; there is one exactly if
a text of the charge point was answered with a result; there are as many records as charge points that
were given a result; and a fresh service to which only the results of the charge point are sent again,
with the same readings of the clock, has the same record of it. -/
theorem records_of_results (interval : UInt32) (occurrences : List Occurrence) :
    let h := of interval occurrences
    (∀ id, h.service.records[id]? = recordOf id (h.resultsOf id)) ∧
      (∀ id, id ∈ h.service.records ↔
        ∃ a ∈ h.answered, a.chargePointId = id ∧ a.isResult = true) ∧
      h.service.records.size = (h.results.map (·.chargePointId)).toFinset.card ∧
      ∀ id, (of interval ((h.resultsOf id).map .text)).service.records[id]? =
        h.service.records[id]? :=
  ⟨getElem?_records interval occurrences, mem_records interval occurrences,
    size_records interval occurrences, getElem?_records_again interval occurrences⟩

end History

end StationGateway
