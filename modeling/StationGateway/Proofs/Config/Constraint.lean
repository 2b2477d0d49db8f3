import StationGateway.Config.Basic

/-!
# The constraints of settings

`Config.constraints` lists what settings must satisfy, in order, each with what is reported where it fails.
`Checks` is what checking a list of constraints comes to: nothing if all hold, and the report of the first that
does not otherwise. `Config.checks_validate` is the contract of the check of settings: it does just that, so
that whoever relies on it need not open it again.
-/

namespace StationGateway.Config

/-- A time of the protocol. -/
def Ocpp.timeout (s : Ocpp) : Timeout → UInt64
  | .idle => s.idleTimeout
  | .write => s.writeTimeout
  | .handshake => s.handshakeTimeout

/-- What settings must satisfy, in order, and what is reported where they do not. -/
def constraints (c : Config) : List (Prop × Violation) := [
  (∃ rest, c.server.path.toList = '/' :: rest, .pathWithoutSlash c.server.path),
  (∃ ch ∈ c.server.identityParameter.toList, Text.isBlank ch = false, .blankIdentityParameter),
  (0 < c.ocpp.heartbeatInterval, .zeroHeartbeatInterval),
  (0 < c.ocpp.timeout .idle, .zeroTimeout .idle),
  (0 < c.ocpp.timeout .write, .zeroTimeout .write),
  (0 < c.ocpp.timeout .handshake, .zeroTimeout .handshake),
  (String.ofList (c.logging.format.toList.map Char.toLower) ∈ ["text", "json"],
    .unknownFormat c.logging.format),
  (c.metrics.enabled = true → ∃ address, SocketAddress.parse? c.metrics.listen = some address,
    .badMetricsAddress c.metrics.listen)]

/-- What checking constraints one after another comes to. -/
inductive Checks : List (Prop × Violation) → Except Violation Unit → Prop
  | done : Checks [] (.ok ())
  | broken {p v rest} (h : ¬ p) : Checks ((p, v) :: rest) (.error v)
  | holds {p v rest result} (h : p) (hrest : Checks rest result) : Checks ((p, v) :: rest) result

section Checks

variable {p : Prop} {v : Violation} {ks rest : List (Prop × Violation)} {result : Except Violation Unit}

/-- One constraint is checked, and then the rest. -/
theorem Checks.check {b : Prop} [Decidable b] (hb : b ↔ ¬ p) {next : Unit → Except Violation Unit}
    (hrest : Checks rest (next ())) :
    Checks ((p, v) :: rest) (if b then throw v >>= next else next ()) := by
  split
  · next h => exact .broken (hb.mp h)
  · next h => exact .holds (Classical.not_not.mp (mt hb.mpr h)) hrest

/-- Constraints can be checked in one way only. -/
theorem Checks.unique {other : Except Violation Unit} (h : Checks ks result) (hother : Checks ks other) :
    result = other := by
  induction h with
  | done =>
    cases hother
    rfl
  | broken hbroken =>
    cases hother with
    | broken => rfl
    | holds hholds => exact absurd hholds hbroken
  | holds hholds _ ih =>
    cases hother with
    | broken hbroken => exact absurd hholds hbroken
    | holds _ hrest => exact ih hrest

theorem checks_ok_iff : Checks ks (.ok ()) ↔ ∀ k ∈ ks, k.1 := by
  induction ks with
  | nil => exact iff_of_true .done fun _ hk => nomatch hk
  | cons k ks ih =>
    rw [List.forall_mem_cons, ← ih]
    constructor
    · intro h
      cases h with
      | holds hholds hrest => exact ⟨hholds, hrest⟩
    · rintro ⟨hholds, hrest⟩
      exact .holds hholds hrest

/-- The constraint that is reported is the first that is broken. -/
theorem checks_error_iff : Checks ks (.error v) ↔
    ∃ before p after, ks = before ++ (p, v) :: after ∧ (∀ k ∈ before, k.1) ∧ ¬ p := by
  constructor
  · intro h
    generalize hresult : Except.error v = result at h
    induction h with
    | done => cases hresult
    | broken hbroken =>
      cases hresult
      exact ⟨[], _, _, rfl, fun _ hk => (nomatch hk), hbroken⟩
    | @holds p w rest result hholds _ ih =>
      obtain ⟨before, q, after, rfl, hbefore, hbroken⟩ := ih hresult
      exact ⟨(p, w) :: before, q, after, rfl, List.forall_mem_cons.mpr ⟨hholds, hbefore⟩, hbroken⟩
  · rintro ⟨before, p, after, rfl, hbefore, hbroken⟩
    induction before with
    | nil => exact .broken hbroken
    | cons k before ih =>
      obtain ⟨hholds, hbefore⟩ := List.forall_mem_cons.mp hbefore
      exact .holds hholds (ih hbefore)

end Checks

theorem isBlankText_iff {s : String} :
    Text.isBlankText s = true ↔ ¬ ∃ ch ∈ s.toList, Text.isBlank ch = false := by
  rw [Text.isBlankText, List.all_eq_true]
  simp only [not_exists, not_and, Bool.not_eq_false]

theorem Logging.isKnownFormat_iff {s : Logging} :
    s.isKnownFormat = true ↔ String.ofList (s.format.toList.map Char.toLower) ∈ ["text", "json"] := by
  have hfold (name : String) (hname : Text.foldCase name = name.toList) :
      Text.sameLetters s.format name = true ↔ String.ofList (s.format.toList.map Char.toLower) = name := by
    rw [Text.sameLetters, beq_iff_eq, hname, ← String.toList_inj, String.toList_ofList]
    rfl
  rw [isKnownFormat, isJson, Bool.or_eq_true, hfold "text" rfl, hfold "json" rfl]
  simp only [List.mem_cons, List.not_mem_nil, or_false]

theorem timeout_eq_zero_iff {n : UInt64} : n = 0 ↔ ¬ 0 < n := by
  rw [UInt64.lt_iff_toNat_lt, ← UInt64.toNat_inj, UInt64.toNat_zero]
  omega

/-- **Settings are checked against their constraints, in order.** -/
theorem checks_validate (c : Config) : Checks c.constraints c.validate := by
  unfold validate constraints
  refine .check ?_ (.check ?_ (.check ?_ (.check ?_ (.check ?_ (.check ?_ (.check ?_ ?_))))))
  · rw [Ne, List.head?_eq_some_iff]
  · exact isBlankText_iff
  · rw [UInt32.lt_iff_toNat_lt, ← UInt32.toNat_inj, UInt32.toNat_zero]
    omega
  · exact timeout_eq_zero_iff
  · exact timeout_eq_zero_iff
  · exact timeout_eq_zero_iff
  · rw [Bool.not_eq_true', ← Logging.isKnownFormat_iff, Bool.not_eq_true]
  -- the address of the metrics is read only where they are served
  · split
    · next henabled =>
      cases haddress : SocketAddress.parse? c.metrics.listen with
      | none =>
        rw [show c.metricsAddress = .error (.badMetricsAddress c.metrics.listen) by
          rw [metricsAddress, haddress]]
        exact .broken fun h => nomatch h henabled
      | some address =>
        rw [show c.metricsAddress = .ok address by rw [metricsAddress, haddress]]
        exact .holds (fun _ => ⟨address, rfl⟩) .done
    · next hdisabled => exact .holds (fun henabled => absurd henabled hdisabled) .done

theorem validate_eq_iff {c : Config} {result : Except Violation Unit} :
    c.validate = result ↔ Checks c.constraints result :=
  ⟨fun h => h ▸ checks_validate c, (checks_validate c).unique⟩

/-- Settings are accepted exactly if they satisfy all constraints. -/
theorem validate_eq_ok_iff {c : Config} : c.validate = .ok () ↔ ∀ k ∈ c.constraints, k.1 :=
  validate_eq_iff.trans checks_ok_iff

end StationGateway.Config
