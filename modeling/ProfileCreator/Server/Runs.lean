import ProfileCreator.Server.Tools
import ProfileCreator.MustGather.WellFormed
import ProfileCreator.Generator.Reads
import ProfileCreator.Validator.Soundness

/-! # Whole runs of the server

The two globals behave as one register written by `analyze_cluster_hardware`:

* `run_state_eq_lastAnalysis` — after any sequence of calls the globals hold the analysis and
  the resolved path of the last call whose path resolved and whose bundle was analysed, and are
  untouched if there was none. A call counts even when its response reports a failure: the
  response is a success exactly when every architecture of the summary is a string
  (`analyzeClusterHardware_stores_analysis`).
* `generatePpcCommand_after_run` — from then on `generate_ppc_command` answers that no hardware
  data is available while no non-empty path is stored; with one, it returns a command exactly
  when the reserved count is given or the heuristic sizes the stored summary
  (`SizingReturns`), and otherwise answers with the text of the heuristic's OverflowError. It
  never raises: every summary the parser produces lists an architecture, and the tool's
  arguments have the option types.
* `validatePerformanceRequirements_judges_first_worker` — the validator sizes a plan against
  `cpus_per_node`, which is the capacity of the first worker node alone: `_generate_summary`
  assumes a homogeneous cluster, and the verdict never consults any other worker.
* `validatePerformanceRequirements_never_warns_per_pod` — the tool's request has no
  `per_pod_power_management`, so the per-pod conflict that `generate_ppc_command` resolves
  silently is never reported by validation.
* `generatePpcCommand_isolated_only_echoed` — `isolated_cpu_count` is stored in the returned
  parameters and read by nothing else.
-/

namespace ProfileCreator.McpServer

open ProfileCreator.Python ProfileCreator.Hardware ProfileCreator.MustGatherParser
  ProfileCreator.PPCCommandGenerator ProfileCreator.WorkloadTemplates ProfileCreator.HardwareValidator

/-! ## The globals are a register -/

/-- The resolved path a call stores: that of an analysis whose path resolved and whose bundle was
found and analysed. -/
def storedPath (env : Environment) : ToolCall → Option String
  | .analyzeClusterHardware path =>
    match env.resolvePath path with
    | .ok resolvedPath =>
      match analyzePath env resolvedPath with
      | .ok _ => some resolvedPath
      | .error _ => none
    | .error _ => none
  | _ => none

/-- The path stored by the last call that stored one. -/
def lastAnalysedPath (env : Environment) : List ToolCall → Option String
  | [] => none
  | call :: rest => (lastAnalysedPath env rest).or (storedPath env call)

/-- The globals after a path is stored: its analysis and the path. -/
def registerState (env : Environment) (path : String) : ServerState :=
  ⟨(analyzePath env path).toOption, some path⟩

theorem handle_state (env : Environment) (state : ServerState) (call : ToolCall) :
    (handle env state call).2 = ((storedPath env call).map (registerState env)).getD state := by
  cases call with
  | analyzeClusterHardware path =>
    simp only [handle, storedPath]
    cases resolved : env.resolvePath path with
    | error => simp [analyzeClusterHardware, resolved]
    | ok resolvedPath =>
      cases analysed : analyzePath env resolvedPath with
      | error => simp [analyzeClusterHardware, resolved, analysed]
      | ok info =>
        simp only [analyzeClusterHardware, resolved, analysed, Option.map_some', Option.getD_some, registerState,
          Except.toOption]
        split <;> rfl
  | _ => rfl

/-- After any sequence of calls the globals hold what the last analysis that returned stored, and
are unchanged when no analysis returned. -/
theorem run_state_eq_lastAnalysis (env : Environment) (state : ServerState) (calls : List ToolCall) :
    (run env state calls).2 = ((lastAnalysedPath env calls).map (registerState env)).getD state := by
  induction calls generalizing state with
  | nil => rfl
  | cons call rest inductionHypothesis =>
    simp only [run, inductionHypothesis, handle_state, lastAnalysedPath]
    cases lastAnalysedPath env rest <;> rfl

theorem storedPath_analysed {env : Environment} {call : ToolCall} {path : String}
    (stored : storedPath env call = some path) : ∃ info, analyzePath env path = .ok info := by
  cases call with
  | analyzeClusterHardware requested =>
    simp only [storedPath] at stored
    split at stored
    · split at stored
      · rename_i info analysed
        cases stored
        exact ⟨info, analysed⟩
      · cases stored
    · cases stored
  | _ => cases stored

theorem lastAnalysedPath_analysed {env : Environment} {path : String} :
    ∀ {calls : List ToolCall}, lastAnalysedPath env calls = some path → ∃ info, analyzePath env path = .ok info
  | [], stored => by cases stored
  | call :: rest, stored => by
    simp only [lastAnalysedPath] at stored
    cases later : lastAnalysedPath env rest with
    | none =>
      rw [later, Option.none_or] at stored
      exact storedPath_analysed stored
    | some found =>
      rw [later] at stored
      cases stored
      exact lastAnalysedPath_analysed later

theorem analyzePath_parsedFacts {env : Environment} {path : String} {info : HardwareInfo}
    (analysed : analyzePath env path = .ok info) : ∃ facts, info.summary = .facts facts ∧ ParsedFacts facts := by
  unfold analyzePath at analysed
  split at analysed
  · exact generateSummary_parsedFacts (parseNodes_ne_nil _) (fun _ => parseNodes_parsed)
      (analyzeHardware_eq_ok.mp analysed).2
  · cases analysed

/-- An analysis that returns is stored, whatever its response: the response is a success exactly
when every architecture of the summary is a string, and otherwise reports a failure although the
globals already hold the new analysis. -/
theorem analyzeClusterHardware_stores_analysis (env : Environment) (state : ServerState) (mustGatherPath : String)
    {resolvedPath : String} (resolved : env.resolvePath mustGatherPath = .ok resolvedPath) {info : HardwareInfo}
    (analysed : analyzePath env resolvedPath = .ok info) :
    (analyzeClusterHardware env state mustGatherPath).2 = ⟨some info, some resolvedPath⟩ ∧
      (∃ response, (analyzeClusterHardware env state mustGatherPath).1 = .ok response) ∧
      ((∃ hardwareInfo summary pathInfo,
          (analyzeClusterHardware env state mustGatherPath).1 = .ok (.success hardwareInfo summary pathInfo)) ↔
        ∃ facts, info.summary = .facts facts ∧ ∀ architecture ∈ facts.architectures, ∃ name, architecture = .str name) := by
  obtain ⟨facts, summarised, -⟩ := analyzePath_parsedFacts analysed
  simp only [analyzeClusterHardware, resolved, analysed, summarised, HardwareSummary.facts.injEq, exists_eq_left',
    ← getSummary_facts_ok_iff]
  cases getSummary (.facts facts) <;> by_cases empty : mustGatherPath = "" <;>
    simp [empty, bind, Except.bind, pure, Except.pure, Functor.map, Except.map]

theorem analyzeClusterHardware_stores_analysis_on_sample :
    sampleEnvironment.resolvePath "/must-gather" = .ok "/must-gather" ∧
      analyzePath sampleEnvironment "/must-gather" = .ok ⟨[fallbackNode], .facts fallbackFacts⟩ ∧
      (analyzeClusterHardware sampleEnvironment .initial "/must-gather").2 =
          ⟨some ⟨[fallbackNode], .facts fallbackFacts⟩, some "/must-gather"⟩ ∧
        (∃ response, (analyzeClusterHardware sampleEnvironment .initial "/must-gather").1 = .ok response) ∧
        ((∃ hardwareInfo summary pathInfo, (analyzeClusterHardware sampleEnvironment .initial "/must-gather").1 =
            .ok (.success hardwareInfo summary pathInfo)) ↔
          ∃ facts, (HardwareSummary.facts fallbackFacts) = .facts facts ∧
            ∀ architecture ∈ facts.architectures, ∃ name, architecture = .str name) :=
  ⟨rfl, rfl, analyzeClusterHardware_stores_analysis sampleEnvironment .initial "/must-gather" rfl rfl⟩

/-! ## `generate_ppc_command` after any run -/

/-- The tool forwards each option with its type and the reserved count as an int or `None`. -/
theorem GeneratePpcCommandArgs.overrides_wellTyped (args : GeneratePpcCommandArgs) : args.overrides.WellTyped := by
  refine ⟨fun option core => ?_, fun option core => ?_, ?_⟩
  · simp only [boolOptions, List.mem_cons, List.not_mem_nil, or_false] at core
    rcases core with rfl | rfl | rfl | rfl | rfl <;> rfl
  · simp only [strOptions, List.mem_cons, List.not_mem_nil, or_false] at core
    rcases core with rfl | rfl <;> rfl
  · show (nonNone (some (optionalInt args.reservedCpuCount))).all PyValue.isInt = true
    cases args.reservedCpuCount <;> rfl

/-- The reserved count the tool passes on is its argument. -/
theorem GeneratePpcCommandArgs.overrides_value?_reserved (args : GeneratePpcCommandArgs) :
    args.overrides.value? "reserved_cpu_count" = args.reservedCpuCount.map .int := by
  show nonNone (some (optionalInt args.reservedCpuCount)) = _
  cases args.reservedCpuCount <;> rfl

/-- The tool's call of `generate_parameters` returns when the reserved count is given or the
heuristic sizes the summary. -/
theorem generateParameters_of_args {summary : HardwareSummary} {args : GeneratePpcCommandArgs}
    (sizes : args.reservedCpuCount.isSome ∨ SizingReturns summary args.workloadType) :
    ∃ params, generateParameters summary args.workloadType args.mcpName args.profileName
      (getTemplate args.workloadType) args.overrides = .ok params :=
  (generateParameters_ok_iff summary _ _ _ _ args.overrides_wellTyped).mpr
    (by rwa [args.overrides_value?_reserved, Option.isSome_map'])

/-- A response of the tool: the globals held data and a non-empty path, and each step returned. -/
theorem generatePpcCommand_eq_ok {state : ServerState} {args : GeneratePpcCommandArgs}
    {generated : GeneratedCommand} (returns : generatePpcCommand state args = .ok generated) :
    ∃ info path, state = ⟨some info, some path⟩ ∧ path ≠ "" ∧
      generateParameters info.summary args.workloadType args.mcpName args.profileName (getTemplate args.workloadType)
        args.overrides = .ok generated.parameters ∧
      buildCommand info.summary path generated.parameters = .ok generated.command ∧
      explainParameters info.summary generated.parameters = .ok generated.explanation ∧
      generated.workloadTemplate = (getTemplate args.workloadType).map (·.name) := by
  obtain ⟨data, path⟩ := state
  cases data with
  | none => cases returns
  | some info =>
    cases path with
    | none => cases returns
    | some path =>
      by_cases empty : path = ""
      · simp [generatePpcCommand, empty] at returns
      · simp only [generatePpcCommand, empty, if_false, mapError_eq_ok, bind_eq_ok, pure, Except.pure,
          Except.ok.injEq] at returns
        obtain ⟨params, generating, command, building, explanation, explaining, rfl⟩ := returns
        exact ⟨info, path, rfl, empty, generating, building, explaining, rfl⟩

/-- On the analysis of a bundle the tool always returns: the summary lists an architecture, and
the parameters name the pool and the profile and size the reserved CPUs with an int. -/
theorem generatePpcCommand_of_parsed {info : HardwareInfo} {facts : SummaryFacts}
    (summarised : info.summary = .facts facts) (parsed : ParsedFacts facts) {path : String} (named : path ≠ "")
    {args : GeneratePpcCommandArgs} (sizes : args.reservedCpuCount.isSome ∨ SizingReturns info.summary args.workloadType) :
    ∃ generated, generatePpcCommand ⟨some info, some path⟩ args = .ok generated := by
  obtain ⟨architecture, others, listed⟩ := List.exists_cons_of_ne_nil parsed.architecturesListed
  have firstListed : info.summary.firstArchitecture (.str "amd64") = .ok architecture := by
    simp [summarised, HardwareSummary.firstArchitecture, HardwareSummary.architectures?, listed]
  obtain ⟨params, returns⟩ := generateParameters_of_args sizes
  have synthesized := synthesized_of_generateParameters args.overrides_wellTyped returns
  obtain ⟨count, sized⟩ := synthesized.reservedCount
  obtain ⟨command, built⟩ := buildCommand_of_present firstListed synthesized.mcpNamed synthesized.profileNamed sized path
  obtain ⟨explanation, explained⟩ := explainParameters_of_present synthesized.mcpNamed info.summary sized
  simp only [generatePpcCommand, named, if_false, returns, built, explained, bind, Except.bind,
    pure, Except.pure, Except.mapError]
  exact ⟨_, rfl⟩

/-- On a stored analysis the heuristic cannot size, a call without a reserved count gets the text of
the OverflowError. -/
theorem generatePpcCommand_overflows {info : HardwareInfo} {path : String} (named : path ≠ "")
    {args : GeneratePpcCommandArgs} (unset : args.reservedCpuCount = none)
    (unsized : ¬SizingReturns info.summary args.workloadType) :
    generatePpcCommand ⟨some info, some path⟩ args = .error "int too large to convert to float" := by
  have unsetOverride : args.overrides.value? "reserved_cpu_count" = none := by
    rw [args.overrides_value?_reserved, unset]
    rfl
  simp only [generatePpcCommand, named, if_false, generateParameters_overflows _ _ _ unsetOverride unsized]
  rfl

/-- After a run whose last stored path is `path`, the globals hold its analysis. -/
theorem run_state_of_lastAnalysed {env : Environment} {calls : List ToolCall} {path : String}
    (stored : lastAnalysedPath env calls = some path) {info : HardwareInfo} (analysed : analyzePath env path = .ok info) :
    (run env .initial calls).2 = ⟨some info, some path⟩ := by
  simp only [run_state_eq_lastAnalysis, stored, Option.map_some', Option.getD_some, registerState, analysed,
    Except.toOption]

/-- After any sequence of calls from start-up, `generate_ppc_command` answers that no hardware data
is available unless the last analysis that returned stored a non-empty path. When it did, the tool
returns a command exactly when the reserved count is given or the heuristic sizes the stored
summary, and otherwise answers with the heuristic's OverflowError; it never raises. -/
theorem generatePpcCommand_after_run (env : Environment) (calls : List ToolCall) (args : GeneratePpcCommandArgs) :
    (∀ path info, lastAnalysedPath env calls = some path → analyzePath env path = .ok info → path ≠ "" →
      if args.reservedCpuCount.isSome ∨ SizingReturns info.summary args.workloadType then
        ∃ generated, generatePpcCommand (run env .initial calls).2 args = .ok generated
      else generatePpcCommand (run env .initial calls).2 args = .error "int too large to convert to float") ∧
    (lastAnalysedPath env calls = none ∨ lastAnalysedPath env calls = some "" →
      generatePpcCommand (run env .initial calls).2 args = .error noHardwareData) := by
  refine ⟨fun path info stored analysed named => ?_, ?_⟩
  · obtain ⟨facts, summarised, parsed⟩ := analyzePath_parsedFacts analysed
    rw [run_state_of_lastAnalysed stored analysed]
    split_ifs with sizes
    · exact generatePpcCommand_of_parsed summarised parsed named sizes
    · obtain ⟨given, unsized⟩ := not_or.mp sizes
      exact generatePpcCommand_overflows named (Option.not_isSome_iff_eq_none.mp given) unsized
  · rw [run_state_eq_lastAnalysis]
    rintro (unanalysed | empty)
    · rw [unanalysed]
      rfl
    · simp only [empty, Option.map_some', Option.getD_some, registerState]
      cases (analyzePath env "").toOption <;> rfl

/-! ## `validate_performance_requirements` after any run -/

/-- `cpus_per_node` is the capacity of the first worker node. -/
theorem generateSummary_cpusPerNode {order : SetOrder} {nodes : List NodeInfo} {summary : HardwareSummary}
    (nonempty : nodes ≠ []) (returns : generateSummary order nodes = .ok summary) :
    ∃ first rest, workerNodesOf nodes = first :: rest ∧ summary.cpusPerNode? = some first.cpuCapacity := by
  obtain ⟨first, rest, workers⟩ := List.exists_cons_of_ne_nil (workerNodesOf_ne_nil nonempty)
  simp only [generateSummary, List.isEmpty_eq_false.mpr nonempty, workers, Bool.false_eq_true, if_false] at returns
  split at returns
  · cases returns
  · cases returns
    exact ⟨first, rest, workers, rfl⟩

/-- After any sequence of calls whose last analysis read a bundle, a report of
`validate_performance_requirements` for a request with both counts is valid exactly when the
plan fits the first worker node the parser extracted: the other workers are never consulted. -/
theorem validatePerformanceRequirements_judges_first_worker (env : Environment) (calls : List ToolCall)
    {path : String} (stored : lastAnalysedPath env calls = some path) {bundle : Bundle}
    (found : env.bundleAt path = some bundle) {args : ValidateArgs} {isolated reserved : Int}
    (isolatedGiven : args.isolatedCpuCount = some isolated) (reservedGiven : args.reservedCpuCount = some reserved)
    {report : ValidationReport} (returns : validatePerformanceRequirements (run env .initial calls).2 args = .ok report) :
    ∃ first rest, workerNodesOf (parseNodes bundle) = first :: rest ∧
      (report.isValid = true ↔ isolated + reserved ≤ first.cpuCapacity) := by
  rw [run_state_eq_lastAnalysis] at returns
  simp only [stored, Option.map_some', Option.getD_some, registerState, analyzePath, found] at returns
  cases analysed : analyzeHardware env.order bundle with
  | error => simp [analysed, validatePerformanceRequirements, Except.toOption] at returns
  | ok info =>
    simp only [analysed, Except.toOption, validatePerformanceRequirements, mapError_eq_ok] at returns
    obtain ⟨first, rest, workers, sized⟩ :=
      generateSummary_cpusPerNode (parseNodes_ne_nil bundle) (analyzeHardware_eq_ok.mp analysed).2
    refine ⟨first, rest, workers, ?_⟩
    rw [(validate_ok_verdict returns).1, validateCpu_isValid, sized]
    simp only [ValidateArgs.requirements, isolatedGiven, reservedGiven, cpuErrors, Option.getD_some]
    split_ifs with fits <;> simp [fits]

theorem validatePerformanceRequirements_judges_first_worker_on_sample :
    lastAnalysedPath sampleEnvironment [.analyzeClusterHardware "/must-gather"] = some "/must-gather" ∧
      sampleEnvironment.bundleAt "/must-gather" = some ⟨[]⟩ ∧
      ∃ report, validatePerformanceRequirements (run sampleEnvironment .initial [.analyzeClusterHardware "/must-gather"]).2
          { workloadType := "database", isolatedCpuCount := some 40, reservedCpuCount := some 4 } = .ok report ∧
        ∃ first rest, workerNodesOf (parseNodes ⟨[]⟩) = first :: rest ∧
          (report.isValid = true ↔ (40 : Int) + 4 ≤ first.cpuCapacity) :=
  ⟨rfl, rfl, _, rfl, @validatePerformanceRequirements_judges_first_worker sampleEnvironment
    [.analyzeClusterHardware "/must-gather"] "/must-gather" rfl _ rfl
    { workloadType := "database", isolatedCpuCount := some 40, reservedCpuCount := some 4 } 40 4 rfl rfl _ rfl⟩

/-- The tool builds its request without `per_pod_power_management`, so `_validate_power_mode` reads
`False` and the per-pod warning never reaches a report of the tool. -/
theorem validatePerformanceRequirements_never_warns_per_pod (state : ServerState) (args : ValidateArgs)
    {report : ValidationReport} (returns : validatePerformanceRequirements state args = .ok report) :
    perPodWarning ∉ report.warnings := by
  unfold validatePerformanceRequirements at returns
  split at returns
  · cases returns
  · exact perPodWarning_not_mem_validate rfl (mapError_eq_ok.mp returns)

theorem validatePerformanceRequirements_never_warns_per_pod_on_sample :
    ∃ report, validatePerformanceRequirements (run sampleEnvironment .initial [.analyzeClusterHardware "/must-gather"]).2
        { workloadType := "database", reservedCpuCount := some 4, powerMode := "low-latency" } = .ok report ∧
      perPodWarning ∉ report.warnings :=
  ⟨_, rfl, validatePerformanceRequirements_never_warns_per_pod
    (run sampleEnvironment .initial [.analyzeClusterHardware "/must-gather"]).2
    { workloadType := "database", reservedCpuCount := some 4, powerMode := "low-latency" } rfl⟩

/-! ## `isolated_cpu_count` -/

theorem overrides_value?_isolated (args : GeneratePpcCommandArgs) (isolated : Option Int) {key : String}
    (other : key ≠ "isolated_cpu_count") :
    ({ args with isolatedCpuCount := isolated } : GeneratePpcCommandArgs).overrides.value? key =
      args.overrides.value? key := by
  simp only [Overrides.value?, GeneratePpcCommandArgs.overrides, GeneratePpcCommandArgs.overrideEntries, PyDict.find?,
    List.lookup, beq_false_of_ne other]

/-- `isolated_cpu_count` is stored in the returned parameters and read by nothing else: two calls
that differ only in it render the same command and explanation and name the same template. -/
theorem generatePpcCommand_isolated_only_echoed (state : ServerState) (args : GeneratePpcCommandArgs)
    (isolated : Option Int) :
    (generatePpcCommand state { args with isolatedCpuCount := isolated }).map
        (fun generated => (generated.command, generated.explanation, generated.workloadTemplate)) =
      (generatePpcCommand state args).map
        (fun generated => (generated.command, generated.explanation, generated.workloadTemplate)) ∧
    ∀ count generated, generatePpcCommand state { args with isolatedCpuCount := some count } = .ok generated →
      generated.parameters.find? "isolated_cpu_count" = some (.int count) := by
  refine ⟨?_, fun count generated returns => ?_⟩
  · obtain ⟨data, path⟩ := state
    cases data with
    | none => rfl
    | some info =>
      cases path with
      | none => rfl
      | some path =>
        by_cases sizes : args.reservedCpuCount.isSome ∨ SizingReturns info.summary args.workloadType
        swap
        · obtain ⟨given, unsized⟩ := not_or.mp sizes
          have unset := Option.not_isSome_iff_eq_none.mp given
          by_cases empty : path = ""
          · simp only [generatePpcCommand, empty, if_true]
          · rw [generatePpcCommand_overflows empty unset unsized,
              @generatePpcCommand_overflows info path empty { args with isolatedCpuCount := isolated } unset unsized]
        obtain ⟨first, firstReturns⟩ :=
          @generateParameters_of_args info.summary { args with isolatedCpuCount := isolated } sizes
        obtain ⟨second, secondReturns⟩ := generateParameters_of_args sizes
        have unread : "isolated_cpu_count" ∉ renderedKeys := by decide
        have agree := generateParameters_congr unread (fun key other => overrides_value?_isolated args isolated other)
          firstReturns secondReturns
        simp only [generatePpcCommand]
        split_ifs
        · rfl
        · simp only [firstReturns, secondReturns, bind, Except.bind, buildCommand_congr unread agree,
            explainParameters_congr unread agree]
          cases buildCommand info.summary path second <;> cases explainParameters info.summary second <;> rfl
  · obtain ⟨info, path, -, -, generating, -⟩ := generatePpcCommand_eq_ok returns
    obtain ⟨merged, merging, adjusting⟩ := generateParameters_eq_ok.mp generating
    rw [find?_adjustParameters_of_quiet adjusting (by simp [RuleFires]), find?_mergeParameters merging]
    rfl

end ProfileCreator.McpServer
