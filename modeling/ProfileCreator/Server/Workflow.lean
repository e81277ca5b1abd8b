import ProfileCreator.Server.Runs
import ProfileCreator.Server.Classification

/-! # The guided workflow

The `guided_profile_creation` prompt walks a client through the tools: analyse the bundle, ask
`get_workload_recommendations` about the workload, then call `generate_ppc_command`. The client
here takes the second step's answer literally: the recommended workload type, and each
recommended setting as the argument of its name (`recommendedArgs`).

* `recommendedArgs_forwards` — every recommended setting reaches `generate_parameters` as the
  override of its name.
* `generatePpcCommand_keeps_recommendations` — after an analysis the fourth step returns a command
  whose parameters hold every recommended setting: a recommendation turns per-pod power
  management on only with the default power mode, and its topology policy, or the tool's default,
  is one DPDK accepts, so no rule of `_adjust_parameters` overrules it.
* `validatePerformanceRequirements_accepts_generated_reserve` — for a latency-sensitive workload
  the reserved count the generator sizes is at least two and a multiple of the estimated NUMA
  node count, so the validator's CPU check has no warning for it.
-/

namespace ProfileCreator.McpServer

open ProfileCreator.Python ProfileCreator.Hardware ProfileCreator.PPCCommandGenerator ProfileCreator.WorkloadTemplates
  ProfileCreator.MustGatherParser ProfileCreator.HardwareValidator

/-- The argument a recommended boolean setting gives, or the tool's default where none is set. -/
def recommendedFlag (settings : PyDict) (key : String) (default : Bool) : Bool :=
  match settings.find? key with
  | some (.bool flag) => flag
  | _ => default

/-- The argument a recommended string setting gives, or the tool's default where none is set. -/
def recommendedText (settings : PyDict) (key : String) (default : String) : String :=
  match settings.find? key with
  | some (.str text) => text
  | _ => default

/-- The arguments a client of the guided workflow passes to `generate_ppc_command` after
`get_workload_recommendations`: the recommended workload type and each recommended setting as the
argument of its name; every other argument keeps the tool's default. -/
def recommendedArgs (recommendations : Recommendations) (mcpName : String) : GeneratePpcCommandArgs :=
  let defaults : GeneratePpcCommandArgs := { workloadType := recommendations.workloadType, mcpName }
  let settings := recommendations.recommendedSettings
  { defaults with
    enableRtKernel := recommendedFlag settings "enable_rt_kernel" defaults.enableRtKernel
    enableDpdk := recommendedFlag settings "enable_dpdk" defaults.enableDpdk
    powerMode := recommendedText settings "power_mode" defaults.powerMode
    topologyPolicy := recommendedText settings "topology_policy" defaults.topologyPolicy
    perPodPowerManagement := recommendedFlag settings "per_pod_power_management" defaults.perPodPowerManagement }

theorem find?_recommendedSettings_other (description : String) {key : String}
    (other : key ∉ ["enable_rt_kernel", "power_mode", "enable_dpdk", "topology_policy", "per_pod_power_management"]) :
    (getWorkloadRecommendations description).recommendedSettings.find? key = none := by
  simp only [List.mem_cons, List.not_mem_nil, or_false, not_or] at other
  simp [getWorkloadRecommendations, find?_recommendWhen, find?_empty, other]

theorem recommendedFlag_of_find? {settings : PyDict} {key : String} {default flag : Bool}
    (found : settings.find? key = some (.bool flag)) : recommendedFlag settings key default = flag := by
  simp [recommendedFlag, found]

theorem recommendedText_of_find? {settings : PyDict} {key default text : String}
    (found : settings.find? key = some (.str text)) : recommendedText settings key default = text := by
  simp [recommendedText, found]

/-- The client forwards every recommended setting as the override of its name. -/
theorem recommendedArgs_forwards (description mcpName : String) {key : String} {value : PyValue}
    (recommended : (getWorkloadRecommendations description).recommendedSettings.find? key = some value) :
    (recommendedArgs (getWorkloadRecommendations description) mcpName).overrides.value? key = some value := by
  by_cases listed : key ∈ ["enable_rt_kernel", "power_mode", "enable_dpdk", "topology_policy", "per_pod_power_management"]
  · simp only [List.mem_cons, List.not_mem_nil, or_false] at listed
    rcases listed with rfl | rfl | rfl | rfl | rfl
    all_goals
      have shape := recommended
      simp only [find?_recommendedSettings_rtKernel, find?_recommendedSettings_powerMode,
        find?_recommendedSettings_dpdk, find?_recommendedSettings_topology, find?_recommendedSettings_perPod] at shape
      split_ifs at shape <;> cases shape
    all_goals
      generalize getWorkloadRecommendations description = recommendations at recommended ⊢
      first
        | exact congrArg (some ∘ PyValue.bool) (recommendedFlag_of_find? recommended)
        | exact congrArg (some ∘ PyValue.str) (recommendedText_of_find? recommended)
  · rw [find?_recommendedSettings_other description listed] at recommended
    cases recommended

/-- Per-pod power management is recommended only together with the default power mode. -/
theorem recommendedArgs_powerMode_of_perPod (description mcpName : String)
    (perPod : (recommendedArgs (getWorkloadRecommendations description) mcpName).perPodPowerManagement = true) :
    (recommendedArgs (getWorkloadRecommendations description) mcpName).powerMode = "default" := by
  revert perPod
  show recommendedFlag _ "per_pod_power_management" false = true → recommendedText _ "power_mode" "default" = "default"
  rw [recommendedFlag, recommendedText, find?_recommendedSettings_perPod, find?_recommendedSettings_powerMode]
  split_ifs <;> simp

/-- The recommended topology policy, or the tool's default, is one DPDK accepts. -/
theorem recommendedArgs_topologyPolicy (description mcpName : String) :
    (recommendedArgs (getWorkloadRecommendations description) mcpName).topologyPolicy ∈
      ["single-numa-node", "restricted"] := by
  show recommendedText _ "topology_policy" "restricted" ∈ _
  rw [recommendedText, find?_recommendedSettings_topology]
  split_ifs <;> simp

theorem generateParameters_keeps_recommendations (summary : HardwareSummary) (description mcpName : String)
    {params : PyDict} (returns : generateParameters summary (getWorkloadRecommendations description).workloadType mcpName
      "performance" (getTemplate (getWorkloadRecommendations description).workloadType)
      (recommendedArgs (getWorkloadRecommendations description) mcpName).overrides = .ok params)
    {key : String} {value : PyValue}
    (recommended : (getWorkloadRecommendations description).recommendedSettings.find? key = some value) :
    params.find? key = some value := by
  obtain ⟨merged, merging, adjusting⟩ := generateParameters_eq_ok.mp returns
  have passed : ∀ key value, (recommendedArgs (getWorkloadRecommendations description) mcpName).overrides.value? key =
      some value → merged.find? key = some value :=
    fun key value overridden => by
      rw [find?_mergeParameters merging, overridden]
      rfl
  have quiet : ¬RuleFires summary merged key := by
    rintro (⟨rfl, enabled, notDefault⟩ | ⟨rfl, -, outside⟩ | ⟨rfl, -⟩)
    · rw [PyDict.getD_eq, passed "per_pod_power_management" _ rfl] at enabled
      exact notDefault (by rw [passed "power_mode" _ rfl, recommendedArgs_powerMode_of_perPod _ _ enabled])
    · rw [passed "topology_policy" _ rfl] at outside
      have accepted := recommendedArgs_topologyPolicy description mcpName
      simp only [List.mem_cons, List.not_mem_nil, or_false] at accepted
      simp only [List.mem_cons, List.not_mem_nil, or_false, Option.some.injEq, PyValue.str.injEq] at outside
      exact outside accepted
    · rw [find?_recommendedSettings_other description (by decide)] at recommended
      cases recommended
  rw [find?_adjustParameters_of_quiet adjusting quiet]
  exact passed _ _ (recommendedArgs_forwards description mcpName recommended)

/-- Following the guided workflow after an analysis, `generate_ppc_command` called with the
recommended workload type and settings returns a command exactly when the heuristic sizes the
stored summary for that type, and every command it returns has parameters that hold every
recommended setting: the conflict rules of `_adjust_parameters` never overrule a recommendation. -/
theorem generatePpcCommand_keeps_recommendations (env : Environment) (calls : List ToolCall)
    (description mcpName : String) {path : String} (stored : lastAnalysedPath env calls = some path)
    {info : HardwareInfo} (analysed : analyzePath env path = .ok info) (named : path ≠ "") :
    ((∃ generated, generatePpcCommand (run env .initial calls).2
        (recommendedArgs (getWorkloadRecommendations description) mcpName) = .ok generated) ↔
      SizingReturns info.summary (getWorkloadRecommendations description).workloadType) ∧
    ∀ generated, generatePpcCommand (run env .initial calls).2
        (recommendedArgs (getWorkloadRecommendations description) mcpName) = .ok generated →
      ∀ key value, (getWorkloadRecommendations description).recommendedSettings.find? key = some value →
        generated.parameters.find? key = some value := by
  rw [run_state_of_lastAnalysed stored analysed]
  obtain ⟨facts, summarised, parsed⟩ := analyzePath_parsedFacts analysed
  refine ⟨⟨fun ⟨generated, returns⟩ => ?_, fun sizes => generatePpcCommand_of_parsed summarised parsed named (.inr sizes)⟩,
    fun generated returns => ?_⟩
  · obtain ⟨_, _, state, -, generating, -⟩ := generatePpcCommand_eq_ok returns
    cases state
    simpa [GeneratePpcCommandArgs.overrides_value?_reserved, recommendedArgs] using
      sizes_of_generateParameters generating
  · obtain ⟨_, _, -, -, generating, -⟩ := generatePpcCommand_eq_ok returns
    exact fun _ _ => generateParameters_keeps_recommendations _ description mcpName generating

theorem generatePpcCommand_keeps_recommendations_on_ran :
    lastAnalysedPath sampleEnvironment [.analyzeClusterHardware "/must-gather"] = some "/must-gather" ∧
      analyzePath sampleEnvironment "/must-gather" = .ok ⟨[fallbackNode], .facts fallbackFacts⟩ ∧ "/must-gather" ≠ "" ∧
      ((∃ generated, generatePpcCommand (run sampleEnvironment .initial [.analyzeClusterHardware "/must-gather"]).2
          (recommendedArgs (getWorkloadRecommendations "5G RAN with DPDK, power saving") "worker-cnf") = .ok generated) ↔
        SizingReturns (.facts fallbackFacts) (getWorkloadRecommendations "5G RAN with DPDK, power saving").workloadType) ∧
      ∀ generated, generatePpcCommand (run sampleEnvironment .initial [.analyzeClusterHardware "/must-gather"]).2
          (recommendedArgs (getWorkloadRecommendations "5G RAN with DPDK, power saving") "worker-cnf") = .ok generated →
        ∀ key value, (getWorkloadRecommendations "5G RAN with DPDK, power saving").recommendedSettings.find? key =
            some value → generated.parameters.find? key = some value :=
  ⟨rfl, rfl, by decide, @generatePpcCommand_keeps_recommendations sampleEnvironment [.analyzeClusterHardware "/must-gather"]
    "5G RAN with DPDK, power saving" "worker-cnf" "/must-gather" rfl _ rfl (by decide)⟩

/-! ## The generator's sizing and the validator's advice -/

/-- For the latency-sensitive workloads the heuristic reserves two CPUs per estimated NUMA node,
which the quarter of the node never cuts below. -/
theorem calculateReservedCpus_numaAligned {facts : SummaryFacts} (parsed : ParsedFacts facts) {workloadType : String}
    (latency : workloadType ∈ latencyWorkloads) :
    ∃ reserved, calculateReservedCpus (.facts facts) workloadType = .ok reserved ∧
      2 ≤ reserved ∧ reserved % facts.numaNodesPerNode = 0 := by
  have nonneg := parsed.cpusNonneg
  rw [calculateReservedCpus_eq]
  simp only [HardwareSummary.cpusPerNode?, HardwareSummary.numaNodesPerNode?, Option.getD_some, if_pos latency,
    Functor.map, Except.map]
  rw [parsed.numaEstimated, estimateNumaNodes]
  split_ifs <;> exact ⟨_, rfl, by omega, by omega⟩

/-- The hypothesis is needed: for `"database"` the tenth of a fifty-CPU node, five, is not a
multiple of its two NUMA nodes. -/
example : calculateReservedCpus (.facts ⟨1, 1, 50, 50, [.str "amd64"], 2, true, none⟩) "database" = .ok 5 := by
  decide

theorem generateParameters_reserved_unwarned {facts : SummaryFacts} (parsed : ParsedFacts facts)
    {workloadType : String} (latency : workloadType ∈ latencyWorkloads)
    {mcpName profileName : String} {template : Option WorkloadTemplate} {overrides : Overrides}
    (unsized : overrides.value? "reserved_cpu_count" = none) {params : PyDict}
    (returns : generateParameters (.facts facts) workloadType mcpName profileName template overrides = .ok params) :
    ∃ reserved, params.find? "reserved_cpu_count" = some (.int reserved) ∧
      ∀ requirements : Requirements, requirements.reservedCpuCount = some reserved →
        (validateCpu (.facts facts) requirements).warnings = [] := by
  obtain ⟨reserved, sized, atLeastTwo, aligned⟩ := calculateReservedCpus_numaAligned parsed latency
  obtain ⟨merged, merging, adjusting⟩ := generateParameters_eq_ok.mp returns
  refine ⟨reserved, ?_, fun requirements given => ?_⟩
  · rw [find?_adjustParameters_of_quiet adjusting (by simp [RuleFires]), find?_mergeParameters_reserved merging, unsized,
      sized]
    rfl
  · simp only [validateCpu, given, HardwareSummary.numaNodesPerNode?, Option.getD_some, aligned]
    simp [atLeastTwo, not_lt.mpr atLeastTwo]

/-- In one session, the reserved count `generate_ppc_command` sizes for a latency-sensitive
workload draws no warning from the CPU check of `validate_performance_requirements`: it is at
least two and a multiple of the NUMA node count. -/
theorem validatePerformanceRequirements_accepts_generated_reserve (env : Environment) (calls : List ToolCall)
    {args : GeneratePpcCommandArgs} (latency : args.workloadType ∈ ["5g-ran", "telco-vnf", "ai-inference"])
    (unsized : args.reservedCpuCount = none) {generated : GeneratedCommand}
    (returns : generatePpcCommand (run env .initial calls).2 args = .ok generated) :
    ∃ reserved, generated.parameters.find? "reserved_cpu_count" = some (.int reserved) ∧
      ∀ (validateArgs : ValidateArgs) (report : ValidationReport), validateArgs.reservedCpuCount = some reserved →
        validatePerformanceRequirements (run env .initial calls).2 validateArgs = .ok report →
          report.detailedChecks.cpu.warnings = [] := by
  obtain ⟨info, path, state, -, generating, -⟩ := generatePpcCommand_eq_ok returns
  have stored := run_storedAnalysis (storedAnalysis_initial env) calls
  rw [state] at stored
  obtain ⟨facts, summarised, parsed⟩ := analyzePath_parsedFacts stored
  rw [summarised] at generating
  have overridesUnsized : args.overrides.value? "reserved_cpu_count" = none := by
    show nonNone (some (optionalInt args.reservedCpuCount)) = none
    rw [unsized]
    rfl
  obtain ⟨reserved, sized, unwarned⟩ := generateParameters_reserved_unwarned parsed latency overridesUnsized generating
  refine ⟨reserved, sized, fun validateArgs report given validated => ?_⟩
  rw [state] at validated
  simp only [validatePerformanceRequirements, mapError_eq_ok] at validated
  rw [(validate_ok_verdict validated).2.2.2, summarised]
  exact unwarned _ given

theorem validatePerformanceRequirements_accepts_generated_reserve_on_ran :
    ranCall.workloadType ∈ ["5g-ran", "telco-vnf", "ai-inference"] ∧ ranCall.reservedCpuCount = none ∧
      ∃ generated, generatePpcCommand (run sampleEnvironment .initial [.analyzeClusterHardware "/must-gather"]).2 ranCall =
          .ok generated ∧
        ∃ reserved, generated.parameters.find? "reserved_cpu_count" = some (.int reserved) ∧
          ∀ (validateArgs : ValidateArgs) (report : ValidationReport), validateArgs.reservedCpuCount = some reserved →
            validatePerformanceRequirements (run sampleEnvironment .initial [.analyzeClusterHardware "/must-gather"]).2
              validateArgs = .ok report → report.detailedChecks.cpu.warnings = [] :=
  ⟨by decide, rfl, _, rfl, @validatePerformanceRequirements_accepts_generated_reserve sampleEnvironment
    [.analyzeClusterHardware "/must-gather"] ranCall (by decide) rfl _ rfl⟩

end ProfileCreator.McpServer
