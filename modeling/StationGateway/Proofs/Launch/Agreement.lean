import StationGateway.Launch
import StationGateway.Proofs.CommandLine.Check
import StationGateway.Proofs.Config.Loading

/-!
# Checks and starts

A check reports the settings that a start with the same command line would use. The two go separate ways: a check
gives up where a start goes on with the built-in settings, and it looks at the constraints once more after the
command line has had its say, which a start does not.

**The law** (`Launch.check_agrees`): they agree nevertheless. A check that succeeds reports the settings of the
start; where it fails the start takes nothing from the file; and a start never goes on with settings that would
not pass the check, because what the command line says is under no constraint.
-/

namespace StationGateway

open CommandLine (Options)

/-- No constraint is about what the command line says. -/
theorem Config.validate_override (c : Config) (o : Options) : (c.override o).validate = c.validate :=
  rfl

namespace Launch

variable {e : Environment} {fileAt : String → Config.File} {o : Options}

theorem validate_default : ({} : Config).validate = .ok () := by
  decide +kernel

/-- What a check comes to, beside the settings that a start uses. -/
inductive Agrees (path : Option String) (o : Options) (start : Config) : Except Config.LoadError Report → Prop
  | reports : Agrees path o start (.ok ⟨path, start⟩)
  | givesUp (fault : Config.LoadError) (hdefault : start = ({} : Config).override o) :
      Agrees path o start (.error fault)

/-- Settings that passed the check when they were loaded pass it again, with what the command line says. -/
theorem check_eq_ok {located : Option Located} {c : Config} (o : Options)
    (hsettings : located.elim (.ok {}) (·.settings) = .ok c) (hvalid : c.validate = .ok ()) :
    check located o = .ok ⟨located.map (·.path), c.override o⟩ := by
  unfold check
  rw [hsettings]
  show ((c.override o).validate.mapError Config.LoadError.invalid >>= fun _ =>
    Except.ok (Report.mk (located.map (·.path)) (c.override o))) = _
  rw [c.validate_override, hvalid]
  rfl

/-- Where a file is found that can be loaded both go on with it; where it cannot, the one gives up and the other
goes on with the built-in settings; and where none is looked for both go on with these. -/
theorem agrees_locate (e : Environment) (fileAt : String → Config.File) (o : Options) :
    let located := locate e fileAt o
    (startConfig located o).validate = .ok () ∧
      Agrees (e.resolveConfigPath o.config) o (startConfig located o) (check located o) := by
  unfold locate
  cases e.resolveConfigPath o.config with
  | none =>
    refine ⟨(Config.validate_override _ o).trans validate_default, ?_⟩
    rw [check_eq_ok o rfl validate_default]
    exact .reports
  | some path =>
    have hlocated : (some path).map (fun path => Located.mk path (Config.load path (fileAt path))) =
      some ⟨path, Config.load path (fileAt path)⟩ := rfl
    rw [hlocated]
    cases hload : Config.load path (fileAt path) with
    | error fault =>
      exact ⟨(Config.validate_override _ o).trans validate_default, .givesUp fault rfl⟩
    | ok c =>
      have hvalid := Config.validate_of_load hload
      refine ⟨(c.validate_override o).trans hvalid, ?_⟩
      rw [check_eq_ok o rfl hvalid]
      exact .reports

theorem run_check {e : Environment} {fileAt : String → Config.File} {args : List String} {o : Options}
    (hread : CommandLine.read e args = .ok (.run o)) (hcheck : o.check = true) : run e fileAt args =
      match check (locate e fileAt o) o with
      | .ok report => .finished ⟨0, report.text, ""⟩
      | .error fault => .finished ⟨1, "", s!"❌ {fault.message}\n"⟩ := by
  cases hresult : check (locate e fileAt o) o <;> simp only [run, hread, hcheck, hresult, if_true]

theorem run_start {e : Environment} {fileAt : String → Config.File} {args : List String} {o : Options}
    (hread : CommandLine.read e args = .ok (.run o)) (hcheck : o.check = false) :
    run e fileAt args = .start (startup e (locate e fileAt o) o) := by
  simp only [run, hread, hcheck, Bool.false_eq_true, if_false]

end Launch

end StationGateway
