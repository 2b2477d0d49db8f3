import StationGateway.Proofs.Handshake.Offer

/-!
# What becomes of a request

A request is turned away for its path, whatever its query is; then for its query; and is accepted otherwise.
`Handshake.Decides` says so without the order in which the two are looked at, and `Handshake.decides_accept` that
every request is decided like that. What an accepted request gets are the headers that the response had, with
the protocol confirmed if the request offers it (`Handshake.Confirms`).
-/

namespace StationGateway.Handshake

/-- An answer that turns a request away with a status and a body. -/
def RefusedWith (answer : Except Rejection (String × Headers)) (status : Nat) (body : String) : Prop :=
  ∃ r, answer = .error r ∧ r.status = status ∧ r.body = body

/-- The headers of a response after its protocol was confirmed, or not. -/
structure Confirms (protocols : List String) (before after : Headers) : Prop where
  confirmed : Offered protocols → after.values "sec-websocket-protocol" = ["ocpp1.6"] ∧
    ∀ name, name ≠ "sec-websocket-protocol" → after.values name = before.values name
  unchanged : ¬ Offered protocols → after = before

/-- The answer to a request. -/
inductive Decides (uri : Uri) (protocols : List String) (response : Headers) (path parameter : String) :
    Except Rejection (String × Headers) → Prop
  | unknownPath (hpath : uri.path ≠ path) :
      Decides uri protocols response path parameter (.error .unknownPath)
  | missingIdentity (hpath : uri.path = path) (hid : identity? uri.query parameter = none) :
      Decides uri protocols response path parameter (.error (.missingIdentity parameter))
  | accepted {id headers} (hpath : uri.path = path) (hid : identity? uri.query parameter = some id)
      (hheaders : Confirms protocols response headers) :
      Decides uri protocols response path parameter (.ok (id, headers))

variable {uri : Uri} {protocols : List String} {response : Headers} {path parameter : String}

theorem confirms_set (protocols : List String) (response : Headers) :
    Confirms protocols response
      (if offers protocols then response.set subprotocolHeader subprotocol else response) where
  confirmed hoffered := by
    rw [if_pos (offers_iff.mpr hoffered)]
    exact ⟨Headers.values_set_self, fun name hname => Headers.values_set_of_ne hname⟩
  unchanged hnot := if_neg (mt offers_iff.mp hnot)

theorem Confirms.iff_offered {headers : Headers} (h : Confirms protocols response headers)
    (hresponse : response.values "sec-websocket-protocol" = []) :
    headers.values "sec-websocket-protocol" = ["ocpp1.6"] ↔ Offered protocols := by
  refine ⟨fun hvalues => ?_, fun hoffered => (h.confirmed hoffered).1⟩
  by_contra hnot
  rw [h.unchanged hnot, hresponse] at hvalues
  cases hvalues

/-- Every request is decided by its path and its query. -/
theorem decides_accept (uri : Uri) (protocols : List String) (response : Headers) (path parameter : String) :
    Decides uri protocols response path parameter (accept uri protocols response path parameter) := by
  unfold accept
  split
  · next hpath => exact .unknownPath hpath
  · next hpath =>
    have hpath := not_not.mp hpath
    split
    · next hid => exact .missingIdentity hpath hid
    · next id hid => exact .accepted hpath hid (confirms_set protocols response)

section Answers

variable {answer : Except Rejection (String × Headers)}
  (h : Decides uri protocols response path parameter answer)

include h

theorem Decides.notFound_iff : RefusedWith answer 404 "Not Found" ↔ uri.path ≠ path := by
  constructor
  · rintro ⟨r, rfl, hstatus, -⟩
    cases h with
    | unknownPath hpath => exact hpath
    | missingIdentity => cases hstatus
  · intro hpath
    cases h with
    | unknownPath => exact ⟨.unknownPath, rfl, rfl, rfl⟩
    | missingIdentity hsame | accepted hsame => exact absurd hsame hpath

theorem Decides.badRequest_iff :
    RefusedWith answer 400 ("missing '" ++ parameter ++ "' query parameter") ↔
      uri.path = path ∧ identity? uri.query parameter = none := by
  constructor
  · rintro ⟨r, rfl, hstatus, -⟩
    cases h with
    | unknownPath => cases hstatus
    | missingIdentity hpath hid => exact ⟨hpath, hid⟩
  · rintro ⟨hpath, hnone⟩
    cases h with
    | unknownPath hne => exact absurd hpath hne
    | missingIdentity => exact ⟨.missingIdentity parameter, rfl, rfl, rfl⟩
    | accepted _ hid =>
      rw [hnone] at hid
      cases hid

theorem Decides.accepted_iff {id : String} : (∃ headers, answer = .ok (id, headers)) ↔
    uri.path = path ∧ identity? uri.query parameter = some id := by
  constructor
  · rintro ⟨headers, rfl⟩
    cases h with
    | accepted hpath hid => exact ⟨hpath, hid⟩
  · rintro ⟨hpath, hid⟩
    cases h with
    | unknownPath hne => exact absurd hpath hne
    | missingIdentity _ hnone =>
      rw [hid] at hnone
      cases hnone
    | accepted _ hid' =>
      obtain rfl := Option.some.inj (hid'.symm.trans hid)
      exact ⟨_, rfl⟩

theorem Decides.confirms {id : String} {headers : Headers} (hanswer : answer = .ok (id, headers)) :
    Confirms protocols response headers := by
  subst hanswer
  cases h with
  | accepted _ _ hheaders => exact hheaders

end Answers

end StationGateway.Handshake
