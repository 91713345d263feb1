/-
  Operands behind two lone hyphens.

  A scan looks at no argument behind two lone hyphens: it finds what it finds in the arguments
  in front of them, and adds those behind them as they are (`Scan.run_append_escape`).  Options
  that need only a user and a path are therefore completed by two hyphens, a user and any paths,
  whatever these look like (`operands_behind_escape`).
-/
import ReadAccess.Proofs.Scanning

set_option autoImplicit false

namespace ReadAccess.CommandLine

open Text (RawText)

/-! ## Errors over arguments -/

/-- Whether an error is over an argument that is read, and not over what the arguments say
together. -/
def UsageError.IsOverArgument : UsageError → Prop
  | .debugFlag _ | .invalidUser _ | .missingUser | .missingPath => False
  | _ => True

/-- A step of a scan fails only over an argument. -/
def FailsOverArgument {α : Type} (x : Except UsageError α) : Prop :=
  ∀ e, x = .error e → e.IsOverArgument

namespace FailsOverArgument

variable {α β : Type} {x : Except UsageError α}

theorem ok (a : α) : FailsOverArgument (.ok a : Except UsageError α) := nofun

theorem error {e : UsageError} (h : e.IsOverArgument) :
    FailsOverArgument (.error e : Except UsageError α) := by
  rintro _ ⟨⟩
  exact h

theorem bind {f : α → Except UsageError β} (hx : FailsOverArgument x)
    (hf : ∀ a, FailsOverArgument (f a)) : FailsOverArgument (x >>= f) := by
  cases x with
  | error e => exact error (hx e rfl)
  | ok a => exact hf a

theorem map {f : α → β} (hx : FailsOverArgument x) : FailsOverArgument (x.map f) := by
  cases x with
  | error e => exact error (hx e rfl)
  | ok a => exact ok _

end FailsOverArgument

namespace Found

variable (f : Found)

theorem addSwitch_failsOverArgument (switch : Switch) : FailsOverArgument (f.addSwitch switch) := by
  cases switch with
  | verbose => exact .ok _
  | _ =>
      rw [addSwitch]
      split
      · exact .error trivial
      · exact .ok _

theorem sizeOf_failsOverArgument (setting : Setting) (value : RawText) :
    FailsOverArgument (sizeOf setting value) := by
  unfold sizeOf
  split
  · exact .error trivial
  · split
    · exact .error trivial
    · exact .ok _

theorem addSetting_failsOverArgument (setting : Setting) (value : RawText) :
    FailsOverArgument (f.addSetting setting value) := by
  cases setting with
  | debug =>
      rw [addSetting]
      split
      · exact .error trivial
      · exact .ok _
  | _ =>
      rw [addSetting]
      split
      · exact .error trivial
      · exact .map (sizeOf_failsOverArgument _ value)

end Found

namespace Scan

variable (s : Scan)

theorem settle_failsOverArgument : FailsOverArgument s.settle := by
  unfold settle
  split
  · exact .ok _
  · exact .error trivial
  · exact Found.addSetting_failsOverArgument _ _ _

theorem onSwitch_failsOverArgument (switch : Switch) : FailsOverArgument (s.onSwitch switch) :=
  .bind s.settle_failsOverArgument fun f =>
    .bind (f.addSwitch_failsOverArgument switch) fun _ => .ok _

theorem onSetting_failsOverArgument (setting : Setting) (value : Option RawText) :
    FailsOverArgument (s.onSetting setting value) := by
  refine .bind s.settle_failsOverArgument fun f => ?_
  cases value with
  | none => exact .ok _
  | some value => exact .bind (f.addSetting_failsOverArgument setting value) fun _ => .ok _

theorem onLong_failsOverArgument (name : RawText) (value : Option RawText) :
    FailsOverArgument (s.onLong name value) := by
  unfold onLong
  split
  · split
    · exact .error trivial
    · exact s.onSwitch_failsOverArgument _
  · split
    · exact s.onSetting_failsOverArgument _ _
    · exact .error trivial

theorem onLetters_failsOverArgument (glyphs : List RawText.Glyph) :
    FailsOverArgument (s.onLetters glyphs) := by
  induction glyphs generalizing s with
  | nil => exact .ok _
  | cons glyph rest ih =>
      cases glyph with
      | broken bytes => exact .error trivial
      | character c =>
          rw [onLetters]
          split
          · exact .error trivial
          · next switch _ =>
            cases hswitch : s.onSwitch switch with
            | error e => exact .error (s.onSwitch_failsOverArgument switch e hswitch)
            | ok next => exact ih next

theorem onOperand_failsOverArgument (argument : RawText) :
    FailsOverArgument (s.onOperand argument) := by
  unfold onOperand
  split
  · exact .ok _
  · exact .map s.settle_failsOverArgument

theorem step_failsOverArgument (argument : RawText) : FailsOverArgument (s.step argument) := by
  unfold step
  split
  · exact .ok _
  · exact s.onLong_failsOverArgument _ _
  · exact s.onLetters_failsOverArgument _
  · exact s.onOperand_failsOverArgument _

/-- **A scan fails only over an argument**, and never because there are too few. -/
theorem run_failsOverArgument (arguments : List RawText) : FailsOverArgument (s.run arguments) := by
  induction arguments generalizing s with
  | nil => exact s.settle_failsOverArgument
  | cons argument rest ih =>
      rw [run]
      split
      · exact .map s.settle_failsOverArgument
      · cases hstep : s.step argument with
        | error e => exact .error (s.step_failsOverArgument argument e hstep)
        | ok next => exact ih next

/-! ## Arguments that are not looked at -/

/-- **Behind two lone hyphens nothing is looked at.** -/
theorem run_append_escape {options : List RawText} (hoptions : ∀ a ∈ options, formOf a ≠ .escape)
    {escape : RawText} (hescape : formOf escape = .escape) (operands : List RawText) :
    s.run (options ++ escape :: operands) =
      (s.run options).map fun f => f.addOperands operands := by
  induction options generalizing s with
  | nil => exact if_pos hescape
  | cons argument rest ih =>
      obtain ⟨hargument, hrest⟩ := List.forall_mem_cons.mp hoptions
      rw [List.cons_append, run, run, if_neg hargument, if_neg hargument]
      cases s.step argument with
      | error e => rfl
      | ok next => exact ih next hrest

end Scan

/-! ## Requests -/

namespace Found

variable (f : Found)

/-- Flags that are wrong are not a user who is missing. -/
theorem verbosity_ne_missingUser : f.verbosity ≠ .error .missingUser := by
  unfold verbosity
  cases f.baseVerbosity.applyFlagLists f.debug <;> exact nofun

theorem user_ne_missingUser : f.user ≠ .error .missingUser := by
  unfold user
  split
  · exact nofun
  · split <;> exact nofun

theorem operands_eq_nil_of_user (h : f.user = .ok none) : f.operands = [] := by
  unfold user at h
  split at h
  · next hnil => exact hnil
  · split at h <;> cases h

end Found

namespace Request

/-- A command line asks for what was found in it. -/
theorem ofArguments_of_run {program : RawText} {arguments : List RawText} {f : Found}
    (hrun : Scan.start.run arguments = .ok f) :
    ofArguments (program :: arguments) =
      f.verbosity >>= fun v => f.user >>= fun user =>
        checked ⟨f.help, f.version, v, f.quiet, f.policy, user, f.paths⟩ := by
  rw [ofArguments, List.tail_cons, hrun]
  show ofFound f >>= checked = _
  rw [ofFound]
  cases f.verbosity with
  | error e => rfl
  | ok v => cases f.user <;> rfl

theorem checked_eq_missingUser_iff {r : Request} :
    r.checked = .error .missingUser ↔ r.isInformation = false ∧ r.user = none := by
  unfold checked
  cases r.isInformation <;> cases r.user <;> cases r.paths <;> simp

/-- A command line that lacks a user has no operand, and asks for no information. -/
theorem exists_found_of_missingUser {program : RawText} {arguments : List RawText}
    (h : ofArguments (program :: arguments) = .error .missingUser) :
    ∃ f v, Scan.start.run arguments = .ok f ∧ f.verbosity = .ok v ∧
      f.help = false ∧ f.version = false ∧ f.operands = [] := by
  cases hrun : Scan.start.run arguments with
  | error e =>
      have hargument := Scan.run_failsOverArgument _ _ e hrun
      rw [ofArguments, List.tail_cons, hrun] at h
      obtain rfl := Except.error.inj h
      exact hargument.elim
  | ok f =>
      rw [ofArguments_of_run hrun] at h
      cases hverbosity : f.verbosity with
      | error e =>
          rw [hverbosity] at h
          obtain rfl := Except.error.inj h
          exact absurd hverbosity f.verbosity_ne_missingUser
      | ok v =>
          rw [hverbosity] at h
          cases huser : f.user with
          | error e =>
              rw [huser] at h
              obtain rfl := Except.error.inj h
              exact absurd huser f.user_ne_missingUser
          | ok user =>
              rw [huser] at h
              obtain ⟨hinformation, rfl⟩ := checked_eq_missingUser_iff.mp h
              obtain ⟨hhelp, hversion⟩ := Bool.or_eq_false_iff.mp hinformation
              exact ⟨f, v, rfl, hverbosity, hhelp, hversion, f.operands_eq_nil_of_user huser⟩

/-- A request with a user and paths stands as it is. -/
theorem checked_of_operands {r : Request} {name : String} (huser : r.user = some name)
    (hpaths : r.paths ≠ []) : r.checked = .ok r := by
  have hsome : r.paths.isEmpty = false := by simpa using hpaths
  simp [checked, huser, hsome]

/-- A user and paths complete the options that lack only these. -/
theorem ofArguments_of_addOperands {program user : RawText} {arguments : List RawText}
    {paths : List Path} {f : Found} {v : Verbosity} (hverbosity : f.verbosity = .ok v)
    (hhelp : f.help = false) (hversion : f.version = false) (hoperands : f.operands = [])
    (hrun : Scan.start.run arguments = .ok (f.addOperands (user :: paths))) (hpaths : paths ≠ []) :
    ofArguments (program :: arguments) =
      match user.toString? with
      | some name => .ok ⟨false, false, v, f.quiet, f.policy, some name, paths⟩
      | none => .error (.invalidUser user) := by
  have hadded : (f.addOperands (user :: paths)).operands = user :: paths := by
    rw [Found.addOperands, hoperands, List.nil_append]
  have hverbosity' : (f.addOperands (user :: paths)).verbosity = .ok v := hverbosity
  have hpaths' : (f.addOperands (user :: paths)).paths = paths := by
    rw [Found.paths, hadded, List.tail_cons]
  have huser : (f.addOperands (user :: paths)).user =
      match user.toString? with
      | some name => .ok (some name)
      | none => .error (.invalidUser user) := by
    cases hname : user.toString? <;> simp [Found.user, hadded, hname]
  rw [ofArguments_of_run hrun, hverbosity', huser, hpaths']
  cases user.toString? with
  | none => rfl
  | some name =>
      show checked ⟨f.help, f.version, v, f.quiet, f.policy, some name, paths⟩ = _
      rw [hhelp, hversion]
      exact checked_of_operands rfl hpaths

end Request

/-- **Operands behind two lone hyphens are never read as options.**  Options that lack only a
user are accepted with two hyphens, a user and paths behind them exactly if the name of the
user is valid text.  The user and the paths are then taken as they are, and everything else
is as the options say. -/
theorem operands_behind_escape {program : RawText} {options : List RawText}
    (hoptions : ∀ argument ∈ options, argument ≠ .ofString "--")
    (hmissing : Request.ofArguments (program :: options) = .error .missingUser) :
    ∃ f v, Scan.start.run options = .ok f ∧ f.verbosity = .ok v ∧
      ∀ (user : RawText) (paths : List Path), paths ≠ [] →
        (∀ r, Request.ofArguments (program :: (options ++ .ofString "--" :: user :: paths)) =
            .ok r ↔ ∃ name, user = .ofString name ∧
              r = ⟨false, false, v, f.quiet, f.policy, some name, paths⟩) ∧
          ((∀ name, user ≠ .ofString name) →
            Request.ofArguments (program :: (options ++ .ofString "--" :: user :: paths)) =
              .error (.invalidUser user)) := by
  obtain ⟨f, v, hrun, hverbosity, hhelp, hversion, hoperands⟩ :=
    Request.exists_found_of_missingUser hmissing
  refine ⟨f, v, hrun, hverbosity, fun user paths hpaths => ?_⟩
  have hcompleted : Scan.start.run (options ++ .ofString "--" :: user :: paths) =
      .ok (f.addOperands (user :: paths)) := by
    rw [Scan.run_append_escape Scan.start (fun a ha => formOf_ne_escape (hoptions a ha)) rfl, hrun]
    rfl
  rw [Request.ofArguments_of_addOperands hverbosity hhelp hversion hoperands hcompleted hpaths]
  cases hname : user.toString? with
  | none =>
      have hinvalid : ∀ name, user ≠ .ofString name := by
        rintro name rfl
        rw [RawText.toString?_ofString] at hname
        cases hname
      refine ⟨fun r => ⟨nofun, ?_⟩, fun _ => rfl⟩
      rintro ⟨name, huser, -⟩
      exact absurd huser (hinvalid name)
  | some name =>
      obtain rfl := RawText.eq_ofString_of_toString? hname
      refine ⟨fun r => ⟨fun h => ⟨name, rfl, (Except.ok.inj h).symm⟩, ?_⟩,
        fun hinvalid => absurd rfl (hinvalid name)⟩
      rintro ⟨name', huser, rfl⟩
      obtain rfl := RawText.ofString_injective huser
      rfl

/-- A user and paths that look like options, like two lone hyphens, or like nothing. -/
theorem operands_behind_escape_lookalikes :
    let options := ["-v", "--debug", "acl2", "--initial-groups=4"].map RawText.ofString
    let paths : List Path := [.ofString "--", .ofString "-q", .ofString "", ⟨[255]⟩]
    (∀ argument ∈ options, argument ≠ .ofString "--") ∧
      Request.ofArguments (.ofString "permcheck" :: options) = .error .missingUser ∧
      Request.ofArguments (.ofString "permcheck" ::
          (options ++ .ofString "--" :: .ofString "--help" :: paths)) =
        .ok ⟨false, false, ⟨⟨2, 0, 0, 1⟩, false⟩, false, Groups.Policy.standard.withInitial 4,
          some "--help", paths⟩ ∧
      Request.ofArguments (.ofString "permcheck" ::
          (options ++ .ofString "--" :: ⟨[255]⟩ :: paths)) =
        .error (.invalidUser ⟨[255]⟩) := by
  intro options paths
  have hoptions : ∀ argument ∈ options, argument ≠ .ofString "--" := by decide
  have hmissing : Request.ofArguments (.ofString "permcheck" :: options) =
      .error .missingUser := rfl
  refine ⟨hoptions, hmissing, ?_⟩
  obtain ⟨f, v, hrun, hverbosity, hcompleted⟩ := operands_behind_escape hoptions hmissing
  have hfound : Scan.start.run options =
      .ok ⟨false, false, false, 1, ["acl2"], some 4, none, []⟩ := by decide
  obtain rfl := Except.ok.inj (hrun.symm.trans hfound)
  obtain rfl : v = ⟨⟨2, 0, 0, 1⟩, false⟩ := Except.ok.inj (hverbosity.symm.trans (by decide))
  obtain ⟨haccepted, -⟩ := hcompleted (.ofString "--help") paths (List.cons_ne_nil _ _)
  obtain ⟨-, hrejected⟩ := hcompleted ⟨[255]⟩ paths (List.cons_ne_nil _ _)
  refine ⟨(haccepted _).mpr ⟨"--help", rfl, rfl⟩, hrejected fun name hname => ?_⟩
  have hinvalid : RawText.toString? ⟨[255]⟩ = none := by decide
  rw [hname, RawText.toString?_ofString] at hinvalid
  cases hinvalid

end ReadAccess.CommandLine
