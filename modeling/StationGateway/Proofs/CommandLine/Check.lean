import StationGateway.CommandLine.Reader
import StationGateway.Proofs.Json.Depth

/-!
# Asking for a check

Any command line that starts a gateway can be made one that only checks: `read_check` says that a check which is
asked for in front of it changes nothing else of what is read. It could, since a check may be asked for once
only; so the law is about command lines that ask for none.

`Ignores` is what each reading of an argument satisfies, and `Ignores.andThen` puts readings together.
-/

namespace StationGateway.CommandLine

open Json (bind_eq_ok)

namespace Progress

/-- The same, with a check asked for. -/
def checking (p : Progress) : Progress :=
  { p with options := { p.options with check := true } }

variable {p q : Progress}

theorem give_checking (p : Progress) (a : Argument) (value : String) :
    p.checking.give a value = (p.give a value).map checking := by
  cases a with
  | config =>
    dsimp only [give, checking]
    split
    · rfl
    · split <;> rfl
  | port =>
    dsimp only [give, checking]
    split
    · rfl
    · cases readPort value <;> rfl
  | logLevel =>
    dsimp only [give, checking]
    split <;> rfl
  | check | help | version => rfl

theorem settle_checking (p : Progress) : p.checking.settle = p.settle.map checking := by
  obtain ⟨options, held⟩ := p
  match held with
  | none => rfl
  | some (a, none) => rfl
  | some (a, some value) => exact give_checking ⟨options, none⟩ a value

theorem plain_checking (p : Progress) (value : String) :
    p.checking.plain value = (p.plain value).map checking := by
  obtain ⟨options, held⟩ := p
  match held with
  | none => rfl
  | some (a, none) => rfl
  | some (a, some value) => rfl

theorem check_of_give {a : Argument} {value : String} (h : p.give a value = .ok q) :
    q.options.check = p.options.check := by
  cases a with
  | config =>
    dsimp only [give] at h
    split at h
    · cases h
    · split at h
      · cases h
      · obtain rfl := Except.ok.inj h
        rfl
  | port =>
    dsimp only [give] at h
    split at h
    · cases h
    · split at h
      · cases h
      · obtain rfl := Except.ok.inj h
        rfl
  | logLevel =>
    dsimp only [give] at h
    split at h
    · cases h
    · obtain rfl := Except.ok.inj h
      rfl
  | check | help | version =>
    obtain rfl := Except.ok.inj h
    rfl

theorem check_of_settle (h : p.settle = .ok q) : q.options.check = p.options.check := by
  obtain ⟨options, held⟩ := p
  match held with
  | none =>
    obtain rfl := Except.ok.inj h
    rfl
  | some (a, none) => cases h
  | some (a, some value) => exact check_of_give (p := ⟨options, none⟩) h

theorem check_of_plain {value : String} (h : p.plain value = .ok q) : q.options.check = p.options.check := by
  obtain ⟨options, held⟩ := p
  match held with
  | some (a, none) =>
    obtain rfl := Except.ok.inj h
    rfl
  | none => cases h
  | some (a, some value) => cases h

end Progress

open Progress (check_of_give check_of_settle check_of_plain settle_checking)

/-- A reading pays no regard to whether a check was asked for. What leaves more to be read, with no check asked
for, was begun with none asked for, and leaves the same when one was. A run is asked for at the end only. -/
structure Ignores (read : Progress → Outcome) : Prop where
  leaves : ∀ {p q}, read p = .ok (.inl q) → q.options.check = false →
    p.options.check = false ∧ read p.checking = .ok (.inl q.checking)
  not_run : ∀ p o, read p ≠ .ok (.inr (.run o))

theorem ignores_error (fault : UsageError) : Ignores fun _ => .error fault where
  leaves h := nomatch h
  not_run _ _ h := nomatch h

theorem ignores_ok : Ignores fun p => .ok (.inl p) where
  leaves h hq := by
    obtain rfl := Sum.inl.inj (Except.ok.inj h)
    exact ⟨hq, rfl⟩
  not_run _ _ h := nomatch h

/-- What keeps the request for a check as it is and does not look at it. -/
theorem ignores_of_map {read : Progress → Except UsageError Progress}
    (hcheck : ∀ p q, read p = .ok q → q.options.check = p.options.check)
    (hread : ∀ p, read p.checking = (read p).map Progress.checking) : Ignores fun p => (read p).map .inl where
  leaves {p q} h hq := by
    cases hp : read p with
    | error e =>
      rw [hp] at h
      cases h
    | ok q' =>
      rw [hp] at h
      obtain rfl := Sum.inl.inj (Except.ok.inj h)
      rw [hread, hp]
      exact ⟨hcheck p q' hp ▸ hq, rfl⟩
  not_run p o h := by
    cases hp : read p <;> rw [hp] at h <;> cases h

/-- One reading after another. -/
theorem Ignores.andThen {first next : Progress → Outcome} (hfirst : Ignores first) (hnext : Ignores next) :
    Ignores fun p =>
      match first p with
      | .ok (.inl p) => next p
      | done => done where
  leaves {p q} h hq := by
    cases hp : first p with
    | error e =>
      rw [hp] at h
      cases h
    | ok done =>
      rw [hp] at h
      cases done with
      | inl p' =>
        obtain ⟨hunasked, hlast⟩ := hnext.leaves h hq
        obtain ⟨hstart, hbegun⟩ := hfirst.leaves hp hunasked
        rw [hbegun]
        exact ⟨hstart, hlast⟩
      | inr request => cases h
  not_run p o h := by
    cases hp : first p with
    | error e =>
      rw [hp] at h
      cases h
    | ok done =>
      rw [hp] at h
      cases done with
      | inl p' => exact hnext.not_run p' o h
      | inr request => exact hfirst.not_run p o (hp.trans h)

/-! ## Reading without regard to it -/

theorem ignores_plain (value : String) : Ignores fun p => (p.plain value).map .inl :=
  ignores_of_map (fun _ _ => check_of_plain) fun p => p.plain_checking value

theorem ignores_settle : Ignores fun p => p.settle.map .inl :=
  ignores_of_map (fun _ _ => check_of_settle) settle_checking

/-- A flag asks for a check, or needs no more to be read. -/
theorem ignores_flag (a : Argument) (isLong : Bool) : Ignores (flag · a isLong) where
  leaves {p q} h hq := by
    obtain ⟨p', -, h⟩ := bind_eq_ok.mp h
    have hasked : q.options.check = true := by
      cases a with
      | help | version => cases h
      | config | port | logLevel | check =>
        dsimp only at h
        split at h
        · cases h
        · obtain rfl := Sum.inl.inj (Except.ok.inj h)
          rfl
    rw [hasked] at hq
    cases hq
  not_run p o h := by
    obtain ⟨p', -, h⟩ := bind_eq_ok.mp h
    cases a with
    | help | version => cases h
    | config | port | logLevel | check =>
      dsimp only at h
      split at h <;> cases h

theorem ignores_option (a : Argument) (attached : Option String) : Ignores (option · a attached) := by
  cases attached with
  | none =>
    have hoption : (option · a none) =
        fun p => (p.settle >>= fun p => Except.ok { p with held := some (a, none) }).map Sum.inl := by
      funext p
      unfold option
      cases p.settle <;> rfl
    rw [hoption]
    refine ignores_of_map (fun p q h => ?_) fun p => ?_
    · obtain ⟨p', hsettle, hheld⟩ := bind_eq_ok.mp h
      obtain rfl := Except.ok.inj hheld
      exact show p'.options.check = p.options.check from check_of_settle hsettle
    · rw [settle_checking]
      cases p.settle <;> rfl
  | some value =>
    have hoption : (option · a (some value)) = fun p => (p.settle >>= (·.give a value)).map Sum.inl := by
      funext p
      unfold option
      cases p.settle with
      | error e => rfl
      | ok p' =>
        show (p'.give a value >>= fun q => Except.ok (Sum.inl q)) = (p'.give a value).map Sum.inl
        cases p'.give a value <;> rfl
    rw [hoption]
    refine ignores_of_map (fun p q h => ?_) fun p => ?_
    · obtain ⟨p', hsettle, hgive⟩ := bind_eq_ok.mp h
      exact (check_of_give hgive).trans (check_of_settle hsettle)
    · rw [settle_checking]
      cases p.settle with
      | error e => rfl
      | ok p' => exact p'.give_checking a value

theorem ignores_long (s : List Char) : Ignores (long · s) := by
  unfold long
  dsimp only
  split
  · exact ignores_error _
  · split
    · exact ignores_option _ _
    · exact ignores_error _
    · exact ignores_flag _ _

theorem ignores_short (s : List Char) : Ignores (short · s) := by
  induction s with
  | nil => exact ignores_ok
  | cons c cs ih =>
    unfold short
    split
    · exact ignores_error _
    · split
      · exact ignores_option _ _
      · exact ignores_option _ _
      · exact ignores_option _ _
      · exact (ignores_flag _ _).andThen ih

theorem ignores_arguments (args : List String) : Ignores (arguments · args) := by
  induction args with
  | nil => exact ignores_settle
  | cons argument rest ih =>
    unfold arguments
    dsimp only
    refine Ignores.andThen ?_ ih
    split
    · split
      · exact ignores_ok
      · exact ignores_error _
    · exact ignores_long _
    · exact ignores_plain _
    · exact ignores_short _
    · exact ignores_plain _

/-- What the environment says of where the settings are goes in behind the command line. -/
def complete (e : Environment) (p : Progress) : Except UsageError Request :=
  match p.options.config, e.configPath with
  | none, some path => do return .run (← p.give .config path).options
  | _, _ => return .run p.options

theorem complete_checking {e : Environment} {p : Progress} {o : Options} (h : complete e p = .ok (.run o)) :
    o.check = p.options.check ∧ complete e p.checking = .ok (.run { o with check := true }) := by
  have hconfig : p.checking.options.config = p.options.config := rfl
  unfold complete at h ⊢
  rw [hconfig]
  split at h
  · next path _ _ =>
    obtain ⟨q, hgive, h⟩ := bind_eq_ok.mp h
    obtain rfl := Request.run.inj (Except.ok.inj h)
    refine ⟨check_of_give hgive, ?_⟩
    rw [p.give_checking, hgive]
    rfl
  · obtain rfl := Request.run.inj (Except.ok.inj h)
    exact ⟨rfl, rfl⟩

/-- A check that is asked for in front is all that is read of it. -/
theorem arguments_check (args : List String) :
    arguments {} ("--check" :: args) = arguments (Progress.checking {}) args := by
  rfl

/-- **A check can be asked for in front of any command line, and nothing else changes.** -/
theorem read_check {e : Environment} {args : List String} {o : Options} (h : read e args = .ok (.run o))
    (ho : o.check = false) : read e ("--check" :: args) = .ok (.run { o with check := true }) := by
  obtain ⟨outcome, harguments, h⟩ := bind_eq_ok.mp h
  cases outcome with
  | inr request =>
    obtain rfl := Except.ok.inj h
    exact absurd harguments ((ignores_arguments args).not_run {} o)
  | inl p =>
    obtain ⟨hcheck, hcomplete⟩ := complete_checking h
    have hchecking : arguments (Progress.checking {}) args = .ok (.inl p.checking) :=
      ((ignores_arguments args).leaves harguments (hcheck ▸ ho)).2
    unfold read
    rw [arguments_check, hchecking]
    exact hcomplete

end StationGateway.CommandLine
