/-
  Which lines of the log a process writes.

  What a command line says about the log can be read off the moves of its arguments, without
  the scan: whether it is quiet, how often it asks for more output, and the values of its
  debug settings.  A scan keeps this while it makes the moves (`Scan.heard_moveAll`).  With
  nothing in the environment a process shows what it would show if everything were shown,
  without the lines of the log that the command line does not ask for
  (`verbosity_projects_log`).
-/
import ReadAccess.CommandLine.Run
import ReadAccess.Proofs.Composition
import ReadAccess.Proofs.FlagLevels
import ReadAccess.Proofs.LogFilter
import ReadAccess.Proofs.Scanning

set_option autoImplicit false

namespace ReadAccess.CommandLine

open Text (RawText)

/-! ## What moves say about the log -/

/-- Whether a move asks for quiet. -/
def Move.isQuiet : Move → Bool
  | .switch .quiet => true
  | _ => false

/-- Whether a move asks for more output. -/
def Move.isVerbose : Move → Bool
  | .switch .verbose => true
  | _ => false

/-- The list of flags that a setting brings, if it is about them. -/
def flagsValue (setting : Setting) (value : RawText) : List RawText :=
  if setting = .debug then [value] else []

/-- The lists of flags among moves, in order.  `awaited` is a setting in front of the moves
whose value is still to come. -/
def flagsValues : Option Setting → List Move → List RawText
  | _, [] => []
  | _, .switch _ :: rest => flagsValues none rest
  | _, .setting setting none :: rest => flagsValues (some setting) rest
  | _, .setting setting (some value) :: rest => flagsValue setting value ++ flagsValues none rest
  | some setting, .operand value :: rest => flagsValue setting value ++ flagsValues none rest
  | none, .operand _ :: rest => flagsValues none rest

/-- What is said about the log. -/
structure Heard where
  /-- Only errors are wanted. -/
  quiet : Bool
  /-- How often more output is wanted. -/
  count : Nat
  /-- The lists of flags, in order. -/
  lists : List RawText
  deriving DecidableEq

/-- What moves say about the log. -/
def heardIn (moves : List Move) : Heard :=
  ⟨moves.any Move.isQuiet, moves.countP Move.isVerbose, flagsValues none moves⟩

/-! ## What a scan hears -/

namespace Scan

/-- The lists of flags that a scan has found or is about to look at. -/
def listsSoFar (s : Scan) : List RawText :=
  s.found.debug.map RawText.ofString ++
    match s.pending with
    | some (setting, some value) => flagsValue setting value
    | _ => []

/-- What a scan will have heard about the log once it has made more moves.  It counts no
further than 255. -/
def heard (s : Scan) (moves : List Move) : Heard :=
  ⟨s.found.quiet || moves.any Move.isQuiet,
    min 255 (s.found.verbose.toNat + moves.countP Move.isVerbose),
    s.listsSoFar ++ flagsValues s.awaits? moves⟩

variable {s t : Scan} {f g : Found}

theorem pending_of_awaits? {setting : Setting} (h : s.awaits? = some setting) :
    s.pending = some (setting, none) := by
  unfold awaits? at h
  split at h
  · next heq =>
    obtain rfl := Option.some.inj h
    exact heq
  · cases h

theorem heard_of_addSetting {setting : Setting} {value : RawText}
    (h : f.addSetting setting value = .ok g) (moves : List Move) :
    heard ⟨g, none⟩ moves = heard ⟨f, some (setting, some value)⟩ moves := by
  obtain ⟨rfl, text, rfl, rfl⟩ | ⟨rfl, -, n, -, rfl⟩ | ⟨rfl, -, n, -, rfl⟩ :=
    Found.addSetting_eq_ok_iff.mp h
  · simp [heard, listsSoFar, flagsValue, awaits?]
  · rfl
  · rfl

/-- A scan that settles hears nothing new. -/
theorem heard_of_settle (h : s.settle = .ok f) (moves : List Move) :
    heard ⟨f, none⟩ moves = s.heard moves := by
  obtain ⟨found, pending⟩ := s
  match pending with
  | none =>
      obtain rfl := Except.ok.inj h
      rfl
  | some (setting, none) => cases h
  | some (setting, some value) => exact heard_of_addSetting h moves

/-- The count of requests for more output stops at its greatest value. -/
theorem toNat_increased (count : UInt8) :
    (if count = 255 then 255 else count + 1).toNat = min 255 (count.toNat + 1) := by
  have hlt := count.toNat_lt
  split
  · next hmax =>
    subst hmax
    rfl
  · next hmax =>
    have hne : count.toNat ≠ 255 := fun h => hmax (UInt8.toNat_inj.mp h)
    rw [UInt8.toNat_add, UInt8.toNat_one]
    omega

theorem heard_of_addSwitch {switch : Switch} (h : f.addSwitch switch = .ok g)
    (moves : List Move) : heard ⟨g, none⟩ moves = heard ⟨f, none⟩ (.switch switch :: moves) := by
  obtain ⟨rfl, -, rfl⟩ | ⟨rfl, -, rfl⟩ | ⟨rfl, -, rfl⟩ | ⟨rfl, rfl⟩ :=
    Found.addSwitch_eq_ok_iff.mp h
  · rfl
  · rfl
  · simp [heard, listsSoFar, awaits?, Move.isQuiet, Move.isVerbose, flagsValues]
  · have hmove : (Move.switch .verbose :: moves).countP Move.isVerbose =
        moves.countP Move.isVerbose + 1 := List.countP_cons_of_pos rfl
    have hcount := toNat_increased f.verbose
    simp [heard, listsSoFar, awaits?, Move.isQuiet, flagsValues, hmove, hcount]
    omega

/-- **A move tells a scan what it says about the log**, and nothing else. -/
theorem heard_move {m : Move} (h : s.move m = .ok t) (rest : List Move) :
    t.heard rest = s.heard (m :: rest) := by
  cases m with
  | switch switch =>
      obtain ⟨f, g, hf, hadd, rfl⟩ := onSwitch_eq_ok_iff.mp h
      rw [heard_of_addSwitch hadd, heard_of_settle hf]
  | setting setting value =>
      obtain ⟨f, hf, ⟨rfl, rfl⟩ | ⟨v, g, rfl, hadd, rfl⟩⟩ := onSetting_eq_ok_iff.mp h
      · rw [← heard_of_settle hf]
        simp [heard, listsSoFar, awaits?, Move.isQuiet, Move.isVerbose, flagsValues]
      · rw [heard_of_addSetting hadd, ← heard_of_settle hf]
        simp [heard, listsSoFar, awaits?, Move.isQuiet, Move.isVerbose, flagsValues]
  | operand argument =>
      obtain ⟨setting, hawaits, rfl⟩ | ⟨f, hf, rfl⟩ := onOperand_eq_ok_iff.mp h
      · obtain ⟨found, pending⟩ := s
        obtain rfl : pending = some (setting, none) := pending_of_awaits? hawaits
        simp [heard, listsSoFar, awaits?, Move.isQuiet, Move.isVerbose, flagsValues]
      · rw [← heard_of_settle hf]
        rfl

/-- What is heard in a run of moves is what was heard before and what the moves say. -/
theorem heard_moveAll {moves : List Move} (h : s.moveAll moves = .ok t) :
    t.heard [] = s.heard moves := by
  induction moves generalizing s with
  | nil =>
      obtain rfl := Except.ok.inj h
      rfl
  | cons m rest ih =>
      obtain ⟨next, hm, hrest⟩ := moveAll_cons_eq_ok_iff.mp h
      rw [ih hrest, heard_move hm]

/-- What a scan of arguments finds about the log is what their moves say about it, counted
up to 255. -/
theorem exists_heardIn_of_run {arguments : List RawText} (h : start.run arguments = .ok f) :
    ∃ moves, optionMoves? arguments = some moves ∧ f.quiet = (heardIn moves).quiet ∧
      f.verbose.toNat = min 255 (heardIn moves).count ∧
      f.debug.map RawText.ofString = (heardIn moves).lists := by
  obtain ⟨moves, t, g, hmoves, ht, hg, rfl⟩ := run_eq_ok_iff.mp h
  have hheard : heard ⟨g, none⟩ [] = start.heard moves := by
    rw [heard_of_settle hg, heard_moveAll ht]
  have hquiet := congrArg Heard.quiet hheard
  have hcount := congrArg Heard.count hheard
  have hlists := congrArg Heard.lists hheard
  have hlt := g.verbose.toNat_lt
  refine ⟨moves, hmoves, ?_, ?_, ?_⟩
  · simpa [heard, heardIn, Found.addOperands, start, Found.nothing] using hquiet
  · simp only [heard, start, Found.nothing, List.countP_nil, UInt8.toNat_zero, Nat.zero_add,
      Nat.add_zero] at hcount
    rw [heardIn, ← hcount, Nat.min_eq_right (by omega)]
    rfl
  · simpa [heard, heardIn, listsSoFar, flagsValues, Found.addOperands, start, awaits?,
      Found.nothing] using hlists

end Scan

/-! ## What is asked of the log -/

/-- What a command line asks of the log. -/
structure LogWishes where
  /-- Only errors are wanted. -/
  quiet : Bool
  /-- How often more output is wanted. -/
  count : Nat
  /-- The flags of all lists, in order. -/
  flags : List DebugFlag
  deriving DecidableEq

/-- What arguments ask of the log, if all tokens of their lists are flags. -/
def logWishes? (arguments : List RawText) : Option LogWishes := do
  let heard := heardIn (← optionMoves? arguments)
  let lists ← heard.lists.mapM RawText.toString?
  let flags ← ((Verbosity.tokensOfAll lists).mapM DebugFlag.ofToken).toOption
  return ⟨heard.quiet, heard.count, flags⟩

namespace LogWishes

/-- Whether the lines of a subsystem are wanted: the level of the last flag about it decides,
and without one the count does. -/
def wants (w : LogWishes) (s : Subsystem) : Bool :=
  !w.quiet &&
    match DebugFlag.lastAbout? w.flags s with
    | some f => 1 ≤ f.level
    | none => 2 ≤ w.count || (w.count == 1 && s == .decision)

variable {w : LogWishes} {f : Found} {v : Verbosity}

/-- The filter of what was found shows the lines that are wanted. -/
theorem shows_eq_wants (hverbosity : f.verbosity = .ok v) (hquiet : f.quiet = w.quiet)
    (hcount : f.verbose.toNat = min 255 w.count)
    (hflags : (Verbosity.tokensOfAll f.debug).mapM DebugFlag.ofToken = .ok w.flags)
    (s : Subsystem) : (Filter.ofVerbosity v).shows s = w.wants s := by
  obtain ⟨flags, hread, rfl⟩ :=
    Verbosity.applyFlagLists_eq_ok_iff.mp (mapError_eq_ok_iff.mp hverbosity)
  obtain rfl := Except.ok.inj (hread.symm.trans hflags)
  rw [Filter.shows_ofVerbosity, Verbosity.quiet_withFlags, Verbosity.get_levels_withFlags,
    DebugFlag.levelAfter, wants, ← hquiet, Found.baseVerbosity]
  cases f.quiet with
  | true => rfl
  | false =>
      cases DebugFlag.lastAbout? w.flags s with
      | some flag =>
          simp [Verbosity.quiet_ofCount, UInt8.lt_iff_toNat_lt, UInt8.le_iff_toNat_le,
            Nat.succ_le_iff]
      | none =>
          rw [if_neg Bool.false_ne_true, Verbosity.quiet_ofCount]
          exact congrArg (true && ·) (Verbosity.zero_lt_level_ofCount hcount s)

end LogWishes

theorem mapM_toString?_map_ofString (texts : List String) :
    (texts.map RawText.ofString).mapM RawText.toString? = some texts := by
  induction texts with
  | nil => rfl
  | cons text rest ih => simp [ih]

/-- An accepted command line asks of the log what its moves say, and its filter shows the
lines that are wanted. -/
theorem exists_logWishes_of_ofArguments {arguments : List RawText} {r : Request}
    (h : Request.ofArguments arguments = .ok r) :
    ∃ wishes, logWishes? arguments.tail = some wishes ∧
      ∀ s, (Filter.ofVerbosity r.verbosity).shows s = wishes.wants s := by
  obtain ⟨f, hf, hverbosity, -, -, -, -⟩ := Request.exists_found_of_ofArguments h
  obtain ⟨moves, hmoves, hquiet, hcount, hlists⟩ := Scan.exists_heardIn_of_run hf
  obtain ⟨flags, hflags, -⟩ :=
    Verbosity.applyFlagLists_eq_ok_iff.mp (mapError_eq_ok_iff.mp hverbosity)
  refine ⟨⟨(heardIn moves).quiet, (heardIn moves).count, flags⟩, ?_,
    LogWishes.shows_eq_wants hverbosity hquiet hcount hflags⟩
  have htexts : (heardIn moves).lists.mapM RawText.toString? = some f.debug := by
    rw [← hlists]
    exact mapM_toString?_map_ofString f.debug
  simp [logWishes?, hmoves, htexts, hflags, Except.toOption]

/-! ## Lines that are shown -/

/-- Whether a happening is no line of the log, or one about a subsystem that passes. -/
def Happening.passes (wanted : Subsystem → Bool) : Happening → Bool
  | .log l => wanted l.subsystem
  | _ => true

/-- What there is to see of a happening, and where: results, errors, and whole lines of the log
beside the errors.  There is nothing to see of a call. -/
def Happening.entry? : Happening → Option (Outlet × RawText)
  | .call _ => none
  | .log l => some (.err, .ofString (l.text ++ "\n"))
  | .out text => some (.out, text)
  | .err text => some (.err, text)

/-- What a happening adds to the standard error output if nothing is left out. -/
def Happening.errBytes : Happening → List UInt8
  | .log l => (RawText.ofString (l.text ++ "\n")).bytes
  | .err text => text.bytes
  | _ => []

/-- A process shows all that there is to see of what its filter lets pass. -/
theorem showing_eq_entries (filter : Filter) (trace : List Happening) :
    showing filter trace =
      (trace.filter (Happening.passes filter.shows)).filterMap Happening.entry? := by
  rw [showing, List.filterMap_filter]
  refine List.filterMap_congr fun happening _ => ?_
  cases happening with
  | log l =>
      cases hshows : filter.shows l.subsystem <;>
        simp [Happening.shown?, Happening.passes, Happening.entry?, hshows]
  | call | out | err => rfl

/-- Nothing is left out by a filter that shows every subsystem. -/
theorem showing_of_shows {filter : Filter} (hall : ∀ s, filter.shows s = true)
    (trace : List Happening) : showing filter trace = trace.filterMap Happening.entry? := by
  rw [showing_eq_entries, List.filter_eq_self.mpr]
  intro happening _
  cases happening with
  | log l => exact hall l.subsystem
  | call | out | err => rfl

/-- The standard error output holds errors and the lines of the log that pass. -/
theorem shownAt_err (filter : Filter) (trace : List Happening) :
    shownAt .err filter trace =
      ⟨(trace.filter (Happening.passes filter.shows)).flatMap Happening.errBytes⟩ := by
  rw [shownAt, showing_eq_entries, List.filterMap_eq_flatMap_toList, List.flatMap_assoc]
  congr 1
  refine List.flatMap_congr fun happening _ => ?_
  cases happening <;> simp [Happening.entry?, Happening.errBytes]

/-- A filter leaves the standard output as it is. -/
theorem shownAt_out (filter : Filter) (trace : List Happening) :
    shownAt .out filter trace = stdout trace := by
  rw [shownAt, showing, List.filterMap_eq_flatMap_toList, List.flatMap_assoc, stdout]
  congr 1
  refine List.flatMap_congr fun happening _ => ?_
  cases happening with
  | log l => cases hshows : filter.shows l.subsystem <;> simp [Happening.shown?, hshows]
  | call | out | err => simp [Happening.shown?]

/-- The lines of the log among happenings that pass are those that do. -/
theorem logLines_filter_passes (wanted : Subsystem → Bool) (trace : List Happening) :
    logLines (trace.filter (Happening.passes wanted)) =
      (logLines trace).filter fun l => wanted l.subsystem := by
  rw [logLines, logLines, List.filterMap_filter, List.filter_filterMap]
  refine List.filterMap_congr fun happening _ => ?_
  cases happening with
  | log l => cases hwanted : wanted l.subsystem <;> simp [Happening.passes, hwanted, Option.filter]
  | call | out | err => rfl

/-- **The log that a process writes is a projection of the whole log.**  With nothing in the
environment the directives of an accepted command line make up the filter, and the process
shows what it would show under the directive that shows everything, without the lines of the
log that the command line does not want.  Each line that is left stands on the standard error
output, in full and in its place among the errors; none is left if the command line is
quiet. -/
theorem verbosity_projects_log (h : Host) (channels : Channels) {arguments : List RawText}
    {r : Request} (hr : Request.ofArguments arguments = .ok r) :
    ∃ wishes filter full, logWishes? arguments.tail = some wishes ∧
      Filter.ofText r.verbosity.directivesText = .ok filter ∧
      filterOf arguments none = .ok filter ∧
      Filter.ofText "trace" = .ok full ∧ (∀ s, full.shows s = true) ∧
      let trace := (run h channels arguments).trace
      let wanted := trace.filter (Happening.passes wishes.wants)
      showing filter trace = showing full wanted ∧
        showing full trace = trace.filterMap Happening.entry? ∧
        showing filter trace = wanted.filterMap Happening.entry? ∧
        shownAt .err filter trace = ⟨wanted.flatMap Happening.errBytes⟩ ∧
        shownAt .out filter trace = stdout trace ∧
        logLines wanted = (logLines trace).filter (fun l => wishes.wants l.subsystem) ∧
        (wishes.quiet = true → logLines wanted = []) := by
  obtain ⟨wishes, hwishes, hshows⟩ := exists_logWishes_of_ofArguments hr
  have hfilter : filterOf arguments none = .ok (.ofVerbosity r.verbosity) := by
    simp [filterOf, hr]
  have hall := showing_of_shows Filter.shows_everything
  refine ⟨wishes, .ofVerbosity r.verbosity, .everything, hwishes,
    Filter.ofText_directivesText r.verbosity, hfilter, Filter.ofText_trace,
    Filter.shows_everything, ?_, hall _, ?_, ?_, shownAt_out _ _, logLines_filter_passes _ _, ?_⟩
  · rw [hall, showing_eq_entries, funext hshows]
  · rw [showing_eq_entries, funext hshows]
  · rw [shownAt_err, funext hshows]
  · intro hquiet
    rw [logLines_filter_passes]
    simp [LogWishes.wants, hquiet]

/-- A command line that asks for owners and modes only: what is asked for later counts. -/
def askedForOwners : List RawText :=
  ["permcheck", "-v", "--debug=all2,identity0", "eve", "--debug", " probe1 ,,decision0,acl0",
    "-v", "/sealed", "/none"].map .ofString

/-- Of nineteen lines about two files of `openAndSealed` the two about owners are shown. -/
theorem verbosity_projects_log_ownersOnly :
    ∃ r filter full, Request.ofArguments askedForOwners = .ok r ∧
      filterOf askedForOwners none = .ok filter ∧ Filter.ofText "trace" = .ok full ∧
      let trace := (run openAndSealed .unlimited askedForOwners).trace
      let wanted := trace.filter (Happening.passes (· == .probe))
      showing filter trace = showing full wanted ∧
        (logLines trace).length = 19 ∧
        logLines wanted =
          [⟨.probe, "/sealed is owned by 500:50 mode 600"⟩,
            ⟨.probe, "[eve /sealed] owner 500:50 mode 600"⟩] ∧
        showing filter trace =
          [(.err, .ofString " INFO permcheck::probe: /sealed is owned by 500:50 mode 600\n"),
            (.err, .ofString " INFO permcheck::probe: [eve /sealed] owner 500:50 mode 600\n"),
            (.out, .ofString "denied: /sealed\n"),
            (.err, .ofString "permcheck: error: file not found: /none\n")] ∧
        shownAt .err filter trace =
          .ofString (" INFO permcheck::probe: /sealed is owned by 500:50 mode 600\n" ++
            " INFO permcheck::probe: [eve /sealed] owner 500:50 mode 600\n" ++
            "permcheck: error: file not found: /none\n") := by
  let r : Request :=
    ⟨false, false, ⟨⟨0, 0, 1, 0⟩, false⟩, false, .standard, some "eve",
      ["/sealed", "/none"].map .ofString⟩
  have hr : Request.ofArguments askedForOwners = .ok r := rfl
  obtain ⟨wishes, filter, full, hwishes, -, hfilter, hfull, -, hshowing, -, hentries, herr, -,
    hlines, -⟩ := verbosity_projects_log openAndSealed .unlimited hr
  have hasked : logWishes? askedForOwners.tail = some ⟨false, 2,
      [⟨.all, 2⟩, ⟨.one .identity, 0⟩, ⟨.one .probe, 1⟩, ⟨.one .decision, 0⟩, ⟨.one .acl, 0⟩]⟩ :=
    rfl
  obtain rfl := Option.some.inj (hwishes.symm.trans hasked)
  have hwants : LogWishes.wants ⟨false, 2, [⟨.all, 2⟩, ⟨.one .identity, 0⟩, ⟨.one .probe, 1⟩,
      ⟨.one .decision, 0⟩, ⟨.one .acl, 0⟩]⟩ = (· == .probe) := by
    funext s
    cases s <;> rfl
  rw [hwants] at hshowing hentries herr hlines
  refine ⟨r, filter, full, hr, hfilter, hfull, hshowing, ?_, ?_, ?_, ?_⟩
  · decide +kernel
  · exact hlines.trans (by decide +kernel)
  · exact hentries.trans (by decide +kernel)
  · exact herr.trans (by decide +kernel)

end ReadAccess.CommandLine
