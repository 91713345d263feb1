/-
  Options that change no result.

  Two command lines may differ in how much the log is to say and in whether verdicts are
  written, by options anywhere in front of two lone hyphens.  If both are accepted, they
  ask for the same paths, the same user and the same group buffers
  (`Request.sameQuestions_of_ofArguments`), and runs for the same questions make the same
  calls, write the same errors and have the same status
  (`CommandLine.diagnostics_change_no_result`).
-/
import ReadAccess.Proofs.Composition
import ReadAccess.Proofs.Scanning

set_option autoImplicit false

namespace ReadAccess.CommandLine

open Text (RawText)

/-! ## Command lines -/

/-- An option about what the log says or about whether verdicts are written, as the
arguments that it is made of. -/
inductive IsDiagnostic : List RawText → Prop where
  | quiet : IsDiagnostic [.ofString "--quiet"]
  | verbose : IsDiagnostic [.ofString "--verbose"]
  | letters {cs : List Char} (hsome : cs ≠ []) (hletters : ∀ c ∈ cs, c = 'q' ∨ c = 'v') :
      IsDiagnostic [.ofString ("-" ++ String.ofList cs)]
  | debug (flags : RawText) : IsDiagnostic [(RawText.ofString "--debug=").append flags]
  /-- The flags may be an argument of their own, if it does not look like an option. -/
  | debugThen {flags : RawText} (hflags : formOf flags = .operand) :
      IsDiagnostic [.ofString "--debug", flags]

/-- The arguments of two command lines are the same besides such options in front of two
lone hyphens. -/
inductive SameBesidesDiagnostics : List RawText → List RawText → Prop where
  | same (arguments : List RawText) : SameBesidesDiagnostics arguments arguments
  | both {argument : RawText} {xs ys : List RawText} (hescape : argument ≠ .ofString "--")
      (h : SameBesidesDiagnostics xs ys) :
      SameBesidesDiagnostics (argument :: xs) (argument :: ys)
  | left {option xs ys : List RawText} (hoption : IsDiagnostic option)
      (h : SameBesidesDiagnostics xs ys) : SameBesidesDiagnostics (option ++ xs) ys
  | right {option xs ys : List RawText} (hoption : IsDiagnostic option)
      (h : SameBesidesDiagnostics xs ys) : SameBesidesDiagnostics xs (option ++ ys)

/-! ## What is found besides such options -/

/-- Two findings agree on the sizes of group buffers and on the operands. -/
structure Found.Alike (f g : Found) : Prop where
  initial : f.initial = g.initial
  increment : f.increment = g.increment
  operands : f.operands = g.operands

namespace Found

variable {f g k f' g' : Found}

theorem Alike.refl (f : Found) : f.Alike f := ⟨rfl, rfl, rfl⟩

theorem Alike.symm (h : f.Alike g) : g.Alike f :=
  ⟨h.initial.symm, h.increment.symm, h.operands.symm⟩

theorem Alike.trans (hfg : f.Alike g) (hgk : g.Alike k) : f.Alike k :=
  ⟨hfg.initial.trans hgk.initial, hfg.increment.trans hgk.increment,
    hfg.operands.trans hgk.operands⟩

/-- Switches say nothing about sizes and operands. -/
theorem alike_of_addSwitch {switch : Switch} (h : f.addSwitch switch = .ok g) : f.Alike g := by
  obtain ⟨-, -, rfl⟩ | ⟨-, -, rfl⟩ | ⟨-, -, rfl⟩ | ⟨-, rfl⟩ := addSwitch_eq_ok_iff.mp h <;>
    exact ⟨rfl, rfl, rfl⟩

theorem alike_of_addSetting_debug {value : RawText} (h : f.addSetting .debug value = .ok g) :
    f.Alike g := by
  obtain ⟨-, text, -, rfl⟩ | ⟨⟨⟩, -⟩ | ⟨⟨⟩, -⟩ := addSetting_eq_ok_iff.mp h
  exact ⟨rfl, rfl, rfl⟩

/-- Once a setting has its value, findings that agreed still do. -/
theorem Alike.addSetting (h : f.Alike g) {setting : Setting} {value : RawText}
    (hf : f.addSetting setting value = .ok f') (hg : g.addSetting setting value = .ok g') :
    f'.Alike g' := by
  cases setting with
  | debug =>
      exact (alike_of_addSetting_debug hf).symm.trans (h.trans (alike_of_addSetting_debug hg))
  | initialGroups =>
      obtain ⟨⟨⟩, -⟩ | ⟨-, -, n, hn, rfl⟩ | ⟨⟨⟩, -⟩ := addSetting_eq_ok_iff.mp hf
      obtain ⟨⟨⟩, -⟩ | ⟨-, -, n', hn', rfl⟩ | ⟨⟨⟩, -⟩ := addSetting_eq_ok_iff.mp hg
      obtain rfl := Except.ok.inj (hn.symm.trans hn')
      exact ⟨rfl, h.increment, h.operands⟩
  | groupIncrement =>
      obtain ⟨⟨⟩, -⟩ | ⟨⟨⟩, -⟩ | ⟨-, -, n, hn, rfl⟩ := addSetting_eq_ok_iff.mp hf
      obtain ⟨⟨⟩, -⟩ | ⟨⟨⟩, -⟩ | ⟨-, -, n', hn', rfl⟩ := addSetting_eq_ok_iff.mp hg
      obtain rfl := Except.ok.inj (hn.symm.trans hn')
      exact ⟨h.initial, rfl, h.operands⟩

theorem Alike.addOperands (h : f.Alike g) (operands : List RawText) :
    (f.addOperands operands).Alike (g.addOperands operands) :=
  ⟨h.initial, h.increment, congrArg (· ++ operands) h.operands⟩

end Found

/-! ## Two scans side by side -/

namespace Scan

/-- Two scans await the value of the same setting, or neither awaits one; what they find
besides agrees. -/
inductive Alike : Scan → Scan → Prop where
  | awaiting {f g : Found} {setting : Setting} (h : f.Alike g) :
      Alike ⟨f, some (setting, none)⟩ ⟨g, some (setting, none)⟩
  | settled {s t : Scan} (hs : s.awaits? = none) (ht : t.awaits? = none)
      (h : ∀ f g, s.settle = .ok f → t.settle = .ok g → f.Alike g) : Alike s t

section Alike

variable {s t s' t' : Scan} {f g : Found}

theorem Alike.symm (h : s.Alike t) : t.Alike s := by
  cases h with
  | awaiting hfound => exact .awaiting hfound.symm
  | settled hs ht hfound => exact .settled ht hs fun f g hf hg => (hfound g f hg hf).symm

theorem Alike.of_found (h : f.Alike g) : Alike ⟨f, none⟩ ⟨g, none⟩ := by
  refine .settled rfl rfl ?_
  rintro _ _ ⟨⟩ ⟨⟩
  exact h

/-- What scans alike settle to agrees: a scan that awaits a value does not settle. -/
theorem Alike.settle (h : s.Alike t) (hf : s.settle = .ok f) (hg : t.settle = .ok g) :
    f.Alike g := by
  cases h with
  | awaiting _ => cases hf
  | settled _ _ hfound => exact hfound f g hf hg

theorem Alike.awaits?_eq (h : s.Alike t) : s.awaits? = t.awaits? := by
  cases h with
  | awaiting _ => rfl
  | settled hs ht _ => rw [hs, ht]

theorem Alike.onOperand (h : s.Alike t) {argument : RawText}
    (hs : s.onOperand argument = .ok s') (ht : t.onOperand argument = .ok t') : s'.Alike t' := by
  cases h with
  | @awaiting f g setting hfound =>
      -- The operand is the value that both scans await.
      obtain rfl := Except.ok.inj hs
      obtain rfl := Except.ok.inj ht
      exact .settled rfl rfl fun _ _ hf hg => hfound.addSetting hf hg
  | settled hnone hnone' hfound =>
      rw [onOperand_eq_ok_iff] at hs ht
      obtain ⟨setting, hawaits, -⟩ | ⟨f, hf, rfl⟩ := hs
      · rw [hnone] at hawaits
        cases hawaits
      · obtain ⟨setting, hawaits, -⟩ | ⟨g, hg, rfl⟩ := ht
        · rw [hnone'] at hawaits
          cases hawaits
        · exact .of_found ((hfound f g hf hg).addOperands _)

/-- **One move keeps scans alike.** -/
theorem Alike.move (h : s.Alike t) {m : Move} (hs : s.move m = .ok s') (ht : t.move m = .ok t') :
    s'.Alike t' := by
  cases m with
  | operand argument => exact h.onOperand hs ht
  | switch switch =>
      obtain ⟨f, f', hf, hadd, rfl⟩ := onSwitch_eq_ok_iff.mp hs
      obtain ⟨g, g', hg, hadd', rfl⟩ := onSwitch_eq_ok_iff.mp ht
      exact .of_found ((Found.alike_of_addSwitch hadd).symm.trans
        ((h.settle hf hg).trans (Found.alike_of_addSwitch hadd')))
  | setting setting value =>
      obtain ⟨f, hf, hs⟩ := onSetting_eq_ok_iff.mp hs
      obtain ⟨g, hg, ht⟩ := onSetting_eq_ok_iff.mp ht
      have hfound := h.settle hf hg
      obtain ⟨rfl, rfl⟩ | ⟨v, f', rfl, hadd, rfl⟩ := hs
      · obtain ⟨-, rfl⟩ | ⟨v, g', hnone, -, -⟩ := ht
        · exact .awaiting hfound
        · cases hnone
      · obtain ⟨hnone, -⟩ | ⟨v', g', hsame, hadd', rfl⟩ := ht
        · cases hnone
        · obtain rfl := Option.some.inj hsame
          exact .of_found (hfound.addSetting hadd hadd')

theorem Alike.moveAll {moves : List Move} (h : s.Alike t) (hs : s.moveAll moves = .ok s')
    (ht : t.moveAll moves = .ok t') : s'.Alike t' := by
  induction moves generalizing s t with
  | nil =>
      obtain rfl := Except.ok.inj hs
      obtain rfl := Except.ok.inj ht
      exact h
  | cons m rest ih =>
      obtain ⟨next, hm, hs⟩ := moveAll_cons_eq_ok_iff.mp hs
      obtain ⟨next', hm', ht⟩ := moveAll_cons_eq_ok_iff.mp ht
      exact ih (h.move hm hm') hs ht

/-- Scans alike find the same in the same arguments. -/
theorem Alike.run {arguments : List RawText} (h : s.Alike t) (hs : s.run arguments = .ok f)
    (ht : t.run arguments = .ok g) : f.Alike g := by
  induction arguments generalizing s t with
  | nil => exact h.settle hs ht
  | cons argument rest ih =>
      by_cases hescape : formOf argument = .escape
      · obtain ⟨f, hf, rfl⟩ := (run_escape_eq_ok_iff hescape).mp hs
        obtain ⟨g, hg, rfl⟩ := (run_escape_eq_ok_iff hescape).mp ht
        exact (h.settle hf hg).addOperands rest
      · obtain ⟨moves, next, hmoves, hnext, hs⟩ := (run_cons_eq_ok_iff hescape).mp hs
        obtain ⟨moves', next', hmoves', hnext', ht⟩ := (run_cons_eq_ok_iff hescape).mp ht
        obtain rfl := Option.some.inj (hmoves.symm.trans hmoves')
        exact ih (h.moveAll hnext hnext') hs ht

end Alike

/-! ## Options that a scan may pass over -/

/-- From one scan to a later one nothing is found about sizes and operands, and no value is
awaited. -/
structure Keeps (s t : Scan) : Prop where
  awaits : t.awaits? = none
  settles : ∃ f, s.settle = .ok f
  alike : ∀ f g, s.settle = .ok f → t.settle = .ok g → f.Alike g

section Keeps

variable {s t u : Scan} {f : Found}

theorem Keeps.trans (hst : s.Keeps t) (htu : t.Keeps u) : s.Keeps u := by
  refine ⟨htu.awaits, hst.settles, fun f k hf hk => ?_⟩
  obtain ⟨g, hg⟩ := htu.settles
  exact (hst.alike f g hf hg).trans (htu.alike g k hg hk)

/-- A scan stays alike to another one when it passes over such options. -/
theorem Keeps.alike_of_alike (hkeeps : s.Keeps t) (h : s.Alike u) : t.Alike u := by
  obtain ⟨f, hf⟩ := hkeeps.settles
  have hnone : u.awaits? = none := by
    rw [← h.awaits?_eq]
    exact awaits?_eq_none_of_settle hf
  exact .settled hkeeps.awaits hnone fun g k hg hk =>
    (hkeeps.alike f g hf hg).symm.trans (h.settle hf hk)

theorem keeps_of_onSwitch {switch : Switch} (h : s.onSwitch switch = .ok t) : s.Keeps t := by
  obtain ⟨f, g, hf, hadd, rfl⟩ := onSwitch_eq_ok_iff.mp h
  refine ⟨rfl, ⟨f, hf⟩, ?_⟩
  rintro f' _ hf' ⟨⟩
  obtain rfl := Except.ok.inj (hf.symm.trans hf')
  exact Found.alike_of_addSwitch hadd

theorem keeps_of_onSetting_debug {value : RawText} (h : s.onSetting .debug (some value) = .ok t) :
    s.Keeps t := by
  obtain ⟨f, hf, ⟨hnone, -⟩ | ⟨v, g, hv, hadd, rfl⟩⟩ := onSetting_eq_ok_iff.mp h
  · cases hnone
  · refine ⟨rfl, ⟨f, hf⟩, ?_⟩
    rintro f' _ hf' ⟨⟩
    obtain rfl := Except.ok.inj (hf.symm.trans hf')
    exact Found.alike_of_addSetting_debug hadd

/-- Debug flags in an argument of their own are found when the scan settles. -/
theorem keeps_of_onOperand_debug {flags : RawText} (hs : s.onSetting .debug none = .ok t)
    (ht : t.onOperand flags = .ok u) : s.Keeps u := by
  obtain ⟨f, hf, ⟨-, rfl⟩ | ⟨v, g, hsome, -, -⟩⟩ := onSetting_eq_ok_iff.mp hs
  · obtain rfl := Except.ok.inj ht
    refine ⟨rfl, ⟨f, hf⟩, fun f' g hf' hg => ?_⟩
    obtain rfl := Except.ok.inj (hf.symm.trans hf')
    exact Found.alike_of_addSetting_debug hg
  · cases hsome

theorem keeps_of_switches (switches : List Switch) (hsome : switches ≠ [])
    (h : s.moveAll (switches.map .switch) = .ok t) : s.Keeps t := by
  induction switches generalizing s with
  | nil => exact absurd rfl hsome
  | cons switch rest ih =>
      obtain ⟨next, hswitch, hrest⟩ := moveAll_cons_eq_ok_iff.mp h
      have hfirst := keeps_of_onSwitch hswitch
      cases rest with
      | nil =>
          obtain rfl := Except.ok.inj hrest
          exact hfirst
      | cons other others => exact hfirst.trans (ih (List.cons_ne_nil _ _) hrest)

end Keeps

end Scan

/-! ## Moves of the options -/

theorem formOf_letters {cs : List Char} (hsome : cs ≠ []) (hletters : ∀ c ∈ cs, c = 'q' ∨ c = 'v') :
    formOf (.ofString ("-" ++ String.ofList cs)) = .short (.ofString (String.ofList cs)) := by
  cases cs with
  | nil => exact absurd rfl hsome
  | cons c rest =>
      -- The first letter is no second hyphen.
      have hbytes : ∃ b, b ≠ 45 ∧ RawText.ofString (String.ofList (c :: rest)) =
          ⟨b :: (RawText.ofString (String.ofList rest)).bytes⟩ := by
        have hsplit : String.ofList (c :: rest) = String.ofList [c] ++ String.ofList rest := by
          rw [← String.ofList_append]
          rfl
        obtain rfl | rfl := hletters c List.mem_cons_self
        · refine ⟨113, by decide, ?_⟩
          rw [hsplit, RawText.ofString_append]
          rfl
        · refine ⟨118, by decide, ?_⟩
          rw [hsplit, RawText.ofString_append]
          rfl
      obtain ⟨b, hb, hbytes⟩ := hbytes
      rw [RawText.ofString_append, hbytes]
      show formOf ⟨45 :: b :: _⟩ = _
      simp [formOf, hb]

theorem letterMoves?_letters {cs : List Char} (hletters : ∀ c ∈ cs, c = 'q' ∨ c = 'v') :
    ∃ switches : List Switch, switches.length = cs.length ∧
      letterMoves? (cs.map .character) = some (switches.map .switch) := by
  induction cs with
  | nil => exact ⟨[], rfl, rfl⟩
  | cons c rest ih =>
      obtain ⟨switches, hlength, hrest⟩ := ih fun d hd => hletters d (List.mem_cons_of_mem _ hd)
      obtain rfl | rfl := hletters c List.mem_cons_self
      · refine ⟨.quiet :: switches, congrArg Nat.succ hlength, ?_⟩
        simp [letterMoves?, letterMove?, hrest, Switch.all, Switch.short]
      · refine ⟨.verbose :: switches, congrArg Nat.succ hlength, ?_⟩
        simp [letterMoves?, letterMove?, hrest, Switch.all, Switch.short]

/-- A cluster of such letters stands for one switch a letter. -/
theorem movesOf?_letters {cs : List Char} (hsome : cs ≠ [])
    (hletters : ∀ c ∈ cs, c = 'q' ∨ c = 'v') :
    ∃ switches : List Switch, switches ≠ [] ∧
      movesOf? (.ofString ("-" ++ String.ofList cs)) = some (switches.map .switch) := by
  obtain ⟨switches, hlength, hmoves⟩ := letterMoves?_letters hletters
  refine ⟨switches, ?_, ?_⟩
  · rintro rfl
    exact hsome (List.length_eq_zero_iff.mp hlength.symm)
  · rw [movesOf?, formOf_letters hsome hletters]
    simpa [RawText.glyphs] using hmoves

namespace Scan

variable {s t : Scan} {rest : List RawText} {f : Found}

theorem exists_keeps_of_switches {argument : RawText} {switches : List Switch}
    (hsome : switches ≠ []) (hescape : formOf argument ≠ .escape)
    (hmoves : movesOf? argument = some (switches.map .switch))
    (h : s.run (argument :: rest) = .ok f) : ∃ t, s.Keeps t ∧ t.run rest = .ok f := by
  obtain ⟨t, ht, hrest⟩ := exists_of_run_cons hescape hmoves h
  exact ⟨t, keeps_of_switches switches hsome ht, hrest⟩

/-- A scan that finds something behind a diagnostic option passes over the option. -/
theorem exists_keeps_of_isDiagnostic {option : List RawText} (hoption : IsDiagnostic option)
    (h : s.run (option ++ rest) = .ok f) : ∃ t, s.Keeps t ∧ t.run rest = .ok f := by
  cases hoption with
  | quiet =>
      have hmoves : movesOf? (.ofString "--quiet") = some ([Switch.quiet].map .switch) := rfl
      exact exists_keeps_of_switches (List.cons_ne_nil _ _) (by decide) hmoves h
  | verbose =>
      have hmoves : movesOf? (.ofString "--verbose") = some ([Switch.verbose].map .switch) := rfl
      exact exists_keeps_of_switches (List.cons_ne_nil _ _) (by decide) hmoves h
  | letters hsome hletters =>
      obtain ⟨switches, hswitches, hmoves⟩ := movesOf?_letters hsome hletters
      refine exists_keeps_of_switches hswitches ?_ hmoves h
      simp [formOf_letters hsome hletters]
  | debug flags =>
      have hform : formOf ((RawText.ofString "--debug=").append flags) =
          .long (.ofString "debug") (some flags) := rfl
      have hmoves : movesOf? ((RawText.ofString "--debug=").append flags) =
          some [.setting .debug (some flags)] := rfl
      obtain ⟨t, ht, hrest⟩ := exists_of_run_cons (by simp [hform]) hmoves h
      exact ⟨t, keeps_of_onSetting_debug (moveAll_singleton_eq_ok_iff.mp ht), hrest⟩
  | @debugThen flags hflags =>
      have hmoves : movesOf? (.ofString "--debug") = some [.setting .debug none] := rfl
      have hvalue : movesOf? flags = some [.operand flags] := by rw [movesOf?, hflags]
      obtain ⟨t, ht, hrest⟩ := exists_of_run_cons (by decide) hmoves h
      obtain ⟨u, hu, hrest⟩ := exists_of_run_cons (by simp [hflags]) hvalue hrest
      exact ⟨u, keeps_of_onOperand_debug (moveAll_singleton_eq_ok_iff.mp ht)
        (moveAll_singleton_eq_ok_iff.mp hu), hrest⟩

/-- **Scans alike find the same besides diagnostic options**, whatever options of this
kind the one or the other command line has. -/
theorem Alike.run_of_same {g : Found} {xs ys : List RawText} (h : s.Alike t)
    (hsame : SameBesidesDiagnostics xs ys) (hs : s.run xs = .ok f) (ht : t.run ys = .ok g) :
    f.Alike g := by
  induction hsame generalizing s t with
  | same arguments => exact h.run hs ht
  | both hescape _ ih =>
      have hform := formOf_ne_escape hescape
      obtain ⟨moves, next, hmoves, hnext, hs⟩ := (run_cons_eq_ok_iff hform).mp hs
      obtain ⟨next', hnext', ht⟩ := exists_of_run_cons hform hmoves ht
      exact ih (h.moveAll hnext hnext') hs ht
  | left hoption _ ih =>
      obtain ⟨s', hkeeps, hs⟩ := exists_keeps_of_isDiagnostic hoption hs
      exact ih (hkeeps.alike_of_alike h) hs ht
  | right hoption _ ih =>
      obtain ⟨t', hkeeps, ht⟩ := exists_keeps_of_isDiagnostic hoption ht
      exact ih (hkeeps.alike_of_alike h.symm).symm hs ht

end Scan

/-! ## Requests -/

/-- Two requests are about the same paths and the same user, with the same group
buffers. -/
structure Request.SameQuestions (r s : Request) : Prop where
  user : r.user = s.user
  paths : r.paths = s.paths
  policy : r.policy = s.policy

theorem Found.Alike.policy_eq {f g : Found} (h : f.Alike g) : f.policy = g.policy := by
  simp only [Found.policy, h.initial, h.increment]

/-- Accepted command lines that are the same besides diagnostic options ask the same
questions. -/
theorem Request.sameQuestions_of_ofArguments {arguments others : List RawText} {r s : Request}
    (hr : Request.ofArguments arguments = .ok r) (hs : Request.ofArguments others = .ok s)
    (h : SameBesidesDiagnostics arguments.tail others.tail) : r.SameQuestions s := by
  obtain ⟨f, hf, -, huser, hpaths, hpolicy, -⟩ := exists_found_of_ofArguments hr
  obtain ⟨g, hg, -, huser', hpaths', hpolicy', -⟩ := exists_found_of_ofArguments hs
  have hstart : Scan.start.Alike Scan.start := .of_found (.refl _)
  have hfound : f.Alike g := hstart.run_of_same h hf hg
  constructor
  · have hsame : f.user = g.user := by simp only [Found.user, hfound.operands]
    exact Except.ok.inj (huser.symm.trans (hsame.trans huser'))
  · rw [hpaths, hpaths', Found.paths, Found.paths, hfound.operands]
  · rw [hpolicy, hpolicy', hfound.policy_eq]

/-! ## Runs -/

/-- Two runs show the same besides the log: they end with the same status, write the same
errors and make the same calls.  They write the same verdicts too, unless one of them is to
be quiet, which then writes nothing. -/
structure AgreeBesidesLog (r s : Request) (x y : Run) : Prop where
  ending : ∃ status, x.ending = .ok status ∧ y.ending = .ok status
  err : stderr x.trace = stderr y.trace
  calls : calls x.trace = calls y.trace
  out : r.quiet = s.quiet → stdout x.trace = stdout y.trace
  quiet : r.quiet = true → stdout x.trace = ⟨[]⟩
  quiet' : s.quiet = true → stdout y.trace = ⟨[]⟩

theorem verdictLines_of_quiet (c : Collaborators) (user : String) (paths : List Path) :
    verdictLines c user true paths = [] := by
  rw [verdictLines, List.filterMap_eq_nil_iff]
  intro path _
  cases (Query.run c user path).ending <;> rfl

theorem Composed.out_of_quiet {c : Collaborators} {user : String} {err : Sink} {before : Status}
    {paths : List Path} {x : Run} (h : Composed c user true err before paths x) :
    stdout x.trace = ⟨[]⟩ := by
  rw [h.out, verdictLines_of_quiet]
  rfl

theorem carryOut_agreeBesidesLog {h : Host} {channels : Channels} {r s : Request}
    {user : String} (hout : channels.out = .endless) (hflush : channels.flushFails = false)
    (hr : r.isInformation = false) (hs : s.isInformation = false) (huser : r.user = some user)
    (hsame : r.SameQuestions s) (hfirst : r.policy.Allocatable) :
    AgreeBesidesLog r s (carryOut h channels r) (carryOut h channels s) := by
  have hx : Composed (Live.collaborators h r.policy) user r.quiet channels.err .allowed r.paths
      (carryOut h channels r) :=
    carryOut_composed hout hflush hr huser hfirst channels.err r.paths
  have hy : Composed (Live.collaborators h s.policy) user s.quiet channels.err .allowed s.paths
      (carryOut h channels s) :=
    carryOut_composed hout hflush hs (hsame.user.symm.trans huser) (hsame.policy ▸ hfirst)
      channels.err s.paths
  rw [← hsame.policy, ← hsame.paths] at hy
  refine ⟨⟨_, hx.ending, hy.ending⟩, hx.err.trans hy.err.symm, hx.calls.trans hy.calls.symm, ?_,
    ?_, ?_⟩
  · intro hquiet
    rw [hx.out, hy.out, hquiet]
  · intro hquiet
    rw [hquiet] at hx
    exact hx.out_of_quiet
  · intro hquiet
    rw [hquiet] at hy
    exact hy.out_of_quiet

/-- **Options about the log and about writing verdicts change no result.**  Accepted command
lines that are the same besides such options ask the same questions.  Runs for the same
questions, on a standard output that takes everything and with a first group buffer that
can be had, agree besides the log. -/
theorem diagnostics_change_no_result {h : Host} {channels : Channels}
    {arguments others : List RawText} {r s : Request} (hout : channels.out = .endless)
    (hflush : channels.flushFails = false) (hr : Request.ofArguments arguments = .ok r)
    (hs : Request.ofArguments others = .ok s) (hrpaths : r.isInformation = false)
    (hspaths : s.isInformation = false) :
    (SameBesidesDiagnostics arguments.tail others.tail → r.SameQuestions s) ∧
      (r.SameQuestions s → r.policy.Allocatable →
        AgreeBesidesLog r s (run h channels arguments) (run h channels others)) := by
  refine ⟨Request.sameQuestions_of_ofArguments hr hs, fun hsame hfirst => ?_⟩
  obtain ⟨⟨user, huser⟩, -⟩ := Request.ofArguments_operands hr hrpaths
  rw [run_of_accepted h channels hr, run_of_accepted h channels hs]
  exact carryOut_agreeBesidesLog hout hflush hrpaths hspaths huser hsame hfirst

/-- A request about three files of `openAndSealed`. -/
def askedByEve (verbosity : Verbosity) (quiet : Bool) : Request :=
  ⟨false, false, verbosity, quiet, Groups.Policy.standard.withInitial 4, some "eve",
    ["/sealed", "/none", "/open"].map .ofString⟩

/-- A command line that asks for this quietly, with much to be said about lists. -/
def askedQuietly : List RawText :=
  ["permcheck", "-vq", "--debug", "acl2", "--initial-groups=4", "eve", "/sealed", "/none",
    "/open"].map .ofString

/-- One that asks for it with something to be said about decisions. -/
def askedAloud : List RawText :=
  ["permcheck", "--initial-groups=4", "--verbose", "eve", "/sealed", "/none", "/open"].map
    .ofString

/-- The quiet run writes no verdict, and otherwise shows what the other one does. -/
theorem diagnostics_change_no_result_quietAndAloud :
    ∃ r s, Request.ofArguments askedQuietly = .ok r ∧ Request.ofArguments askedAloud = .ok s ∧
      SameBesidesDiagnostics askedQuietly.tail askedAloud.tail ∧
      AgreeBesidesLog r s (run openAndSealed .unlimited askedQuietly)
        (run openAndSealed .unlimited askedAloud) ∧
      stdout (run openAndSealed .unlimited askedQuietly).trace = ⟨[]⟩ ∧
      (run openAndSealed .unlimited askedQuietly).ending = .ok .fileNotFound := by
  let r := askedByEve ⟨⟨2, 0, 0, 0⟩, true⟩ true
  let s := askedByEve (.ofCount 1) false
  have hr : Request.ofArguments askedQuietly = .ok r := rfl
  have hs : Request.ofArguments askedAloud = .ok s := rfl
  have hlines : SameBesidesDiagnostics askedQuietly.tail askedAloud.tail := by
    have hletters : IsDiagnostic [.ofString ("-" ++ String.ofList ['v', 'q'])] :=
      .letters (List.cons_ne_nil _ _) (by simp)
    have hflags : IsDiagnostic [.ofString "--debug", .ofString "acl2"] := .debugThen rfl
    exact .left hletters (.left hflags (.both (by decide) (.right .verbose (.same _))))
  obtain ⟨hquestions, hagree⟩ :
      (_ → r.SameQuestions s) ∧ (_ → _ → AgreeBesidesLog r s
        (run openAndSealed .unlimited askedQuietly) (run openAndSealed .unlimited askedAloud)) :=
    diagnostics_change_no_result rfl rfl hr hs rfl rfl
  have hlog := hagree (hquestions hlines) (by decide)
  refine ⟨r, s, hr, hs, hlines, hlog, hlog.quiet rfl, ?_⟩
  decide +kernel

end ReadAccess.CommandLine
