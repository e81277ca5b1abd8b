import ProfileCreator.Generator.Command
import ProfileCreator.MustGather.Summary
import ProfileCreator.Validator.Validate

/-! # The MCP server

The server keeps two globals: the last analysed hardware information and the path it came from.
Only `analyze_cluster_hardware` writes them; the other tools read them. Each tool is a function
from the state and its arguments to a response and the next state; `handle` dispatches one call
and `run` handles a sequence of calls.

What the tools read of the world outside the process is an `Environment`: where `resolve_path`
maps a path under the mappings read at start-up (or the error it raises, as `Path.resolve` can),
which bundle a path holds, and the order of Python's set iteration. `create_performance_profile` runs a shell and writes a file, and touches
no global; it is modelled over a host in `ProfileCreator.Server.ProfileCreation`. The
`must-gather://hardware-info` resource and the guided prompt only print text; they are not
modelled.

The invariant of every run (`run_storedAnalysis`, spelled out as `run_globals_agree`): the two
globals are set together, and the stored data is the analysis of the stored path, so the
generator always mounts the bundle its hardware facts came from.
-/

namespace ProfileCreator.McpServer

open ProfileCreator.Python ProfileCreator.Hardware ProfileCreator.MustGatherParser
  ProfileCreator.HardwareValidator ProfileCreator.PPCCommandGenerator ProfileCreator.WorkloadTemplates

/-- The globals `_must_gather_data` and `_must_gather_path`. -/
structure ServerState where
  mustGatherData : Option HardwareInfo
  mustGatherPath : Option String

/-- The globals at module load. -/
def ServerState.initial : ServerState := ⟨none, none⟩

/-- The world the tools read. -/
structure Environment where
  resolvePath : String → Except PyError String
  bundleAt : String → Option Bundle
  order : SetOrder

/-- The error of a tool called before any analysis. -/
def noHardwareData : String := "No hardware data available. Please run analyze_cluster_hardware first."

/-! ## `analyze_cluster_hardware` -/

/-- The `path_info` of a response. -/
structure PathInfo where
  originalPath : String
  resolvedPath : Option String

/-- The two shapes of the tool's response. -/
inductive AnalyzeResponse
  | success (hardwareInfo : HardwareInfo) (summary : String) (pathInfo : PathInfo)
  | failure (error message : String) (pathInfo : PathInfo)

/-- The `message` of a failed analysis. -/
def analyzeFailureMessage : String := "Failed to analyze must-gather data. Please ensure the path is correct."

/-- `MustGatherParser(path).analyze_hardware()`: the constructor raises for a missing path. -/
def analyzePath (env : Environment) (path : String) : Except PyError HardwareInfo :=
  match env.bundleAt path with
  | some bundle => analyzeHardware env.order bundle
  | none => .error (.valueError ("Must-gather path does not exist: " ++ path))

/-- `analyze_cluster_hardware`. The globals are written before `get_summary` runs, so a summary
that fails to render still leaves them set. The handler calls `resolve_path` again for the
`path_info` of a non-empty path, so an error of `resolve_path` escapes the tool. -/
def analyzeClusterHardware (env : Environment) (state : ServerState) (mustGatherPath : String) :
    Except PyError AnalyzeResponse × ServerState :=
  let failure (error : PyError) : Except PyError AnalyzeResponse := do
    let resolvedPath ← if mustGatherPath = "" then pure none else some <$> env.resolvePath mustGatherPath
    pure (.failure error.toStr analyzeFailureMessage ⟨mustGatherPath, resolvedPath⟩)
  match env.resolvePath mustGatherPath with
  | .error error => (failure error, state)
  | .ok resolvedPath =>
    match analyzePath env resolvedPath with
    | .error error => (failure error, state)
    | .ok hardwareInfo =>
      let stored : ServerState := ⟨some hardwareInfo, some resolvedPath⟩
      match getSummary hardwareInfo.summary with
      | .error error => (failure error, stored)
      | .ok summary => (.ok (.success hardwareInfo summary ⟨mustGatherPath, some resolvedPath⟩), stored)

/-! ## `validate_performance_requirements` -/

/-- The tool's arguments, with its declared defaults. -/
structure ValidateArgs where
  workloadType : String
  isolatedCpuCount : Option Int := none
  reservedCpuCount : Option Int := none
  enableRtKernel : Bool := false
  enableDpdk : Bool := false
  hugepagesSize : Option String := none
  hugepagesCount : Option Int := none
  powerMode : String := "default"

/-- The `requirements` dict the tool builds; it has no `per_pod_power_management` key. -/
def ValidateArgs.requirements (args : ValidateArgs) : Requirements :=
  ⟨args.workloadType, args.isolatedCpuCount, args.reservedCpuCount, args.enableRtKernel, args.enableDpdk,
    args.hugepagesSize, args.hugepagesCount, args.powerMode, false⟩

/-- `validate_performance_requirements`: the report, or the error text. -/
def validatePerformanceRequirements (state : ServerState) (args : ValidateArgs) : Except String ValidationReport :=
  match state.mustGatherData with
  | none => .error noHardwareData
  | some data => (validate data.summary args.requirements).mapError PyError.toStr

/-! ## `generate_ppc_command` -/

/-- The tool's arguments, with its declared defaults. -/
structure GeneratePpcCommandArgs where
  workloadType : String
  mcpName : String
  profileName : String := "performance"
  isolatedCpuCount : Option Int := none
  reservedCpuCount : Option Int := none
  enableRtKernel : Bool := false
  disableHt : Bool := false
  enableDpdk : Bool := false
  powerMode : String := "default"
  topologyPolicy : String := "restricted"
  splitReservedAcrossNuma : Bool := false
  perPodPowerManagement : Bool := false

/-- An `Optional[int]` argument as the value Python passes on. -/
def optionalInt : Option Int → PyValue
  | some count => .int count
  | none => .none

/-- The keyword arguments the tool passes on to `generate_parameters`, in its order. -/
def GeneratePpcCommandArgs.overrideEntries (args : GeneratePpcCommandArgs) : List (String × PyValue) :=
  [("isolated_cpu_count", optionalInt args.isolatedCpuCount),
   ("reserved_cpu_count", optionalInt args.reservedCpuCount),
   ("enable_rt_kernel", .bool args.enableRtKernel),
   ("disable_ht", .bool args.disableHt),
   ("enable_dpdk", .bool args.enableDpdk),
   ("power_mode", .str args.powerMode),
   ("topology_policy", .str args.topologyPolicy),
   ("split_reserved_across_numa", .bool args.splitReservedAcrossNuma),
   ("per_pod_power_management", .bool args.perPodPowerManagement)]

theorem GeneratePpcCommandArgs.keys_overrideEntries (args : GeneratePpcCommandArgs) :
    args.overrideEntries.map Prod.fst =
      ["isolated_cpu_count", "reserved_cpu_count", "enable_rt_kernel", "disable_ht", "enable_dpdk", "power_mode",
       "topology_policy", "split_reserved_across_numa", "per_pod_power_management"] := rfl

/-- The `**overrides` that `generate_parameters` receives from the tool. -/
def GeneratePpcCommandArgs.overrides (args : GeneratePpcCommandArgs) : Overrides :=
  ⟨⟨args.overrideEntries, by rw [args.keys_overrideEntries]; decide⟩, fun name named => by
    simp only [List.mem_cons, List.not_mem_nil, or_false] at named
    rcases named with rfl | rfl | rfl | rfl | rfl <;> rfl⟩

/-- The success response of the tool. -/
structure GeneratedCommand where
  command : String
  parameters : PyDict
  explanation : String
  workloadTemplate : Option String

/-- `generate_ppc_command`: the response, or the error text. An empty stored path counts as no
data, as Python's truthiness has it. -/
def generatePpcCommand (state : ServerState) (args : GeneratePpcCommandArgs) : Except String GeneratedCommand :=
  match state.mustGatherData, state.mustGatherPath with
  | some data, some path =>
    if path = "" then .error noHardwareData
    else Except.mapError PyError.toStr do
      let template := getTemplate args.workloadType
      let params ← generateParameters data.summary args.workloadType args.mcpName args.profileName template
        args.overrides
      let command ← buildCommand data.summary path params
      let explanation ← explainParameters data.summary params
      pure ⟨command, params, explanation, template.map (·.name)⟩
  | _, _ => .error noHardwareData

/-! ## `list_workload_templates` and `get_workload_recommendations` -/

/-- `any(kw in description_lower for kw in keywords)`. -/
def mentionsAny (descriptionLower : String) (keywords : List String) : Bool :=
  keywords.any (contains descriptionLower ·)

/-- The `if`/`elif` chain that picks the workload type: keywords, type and reason, tried in
order. -/
def workloadTypeRules : List (List String × String × String) :=
  [(["5g", "ran", "radio", "baseband"], "5g-ran", "Detected 5G/RAN workload - requires ultra-low latency"),
   (["database", "db", "sql", "postgres", "mysql"], "database",
     "Detected database workload - requires memory optimization"),
   (["ai", "ml", "inference", "tensorflow", "pytorch"], "ai-inference",
     "Detected AI/ML workload - requires CPU isolation"),
   (["vnf", "telco", "nfv"], "telco-vnf", "Detected Telco VNF workload - requires RT kernel and DPDK")]

/-- The type and reason of the first rule whose keywords occur. -/
def classifyWorkload (descriptionLower : String) : Option (String × String) :=
  (workloadTypeRules.find? fun rule => mentionsAny descriptionLower rule.1).map (·.2)

/-- One settings rule: when `detected`, set `updates` in order and add `reason`. -/
def recommendWhen (detected : Bool) (updates : List (String × PyValue)) (reason : String)
    (current : PyDict × List String) : PyDict × List String :=
  if detected then (updates.foldl (fun settings update => settings.set update.1 update.2) current.1, current.2 ++ [reason])
  else current

/-- The `recommendations` dict. -/
structure Recommendations where
  workloadType : String
  recommendedSettings : PyDict
  reasoning : List String
  templateDetails : Option WorkloadTemplate

/-- `get_workload_recommendations`, with `lower` on ASCII letters. -/
def getWorkloadRecommendations (workloadDescription : String) : Recommendations :=
  let descriptionLower := lower workloadDescription
  let (workloadType, reasoning) := match classifyWorkload descriptionLower with
    | some (workloadType, reason) => (workloadType, [reason])
    | none => ("custom", [])
  let (settings, reasoning) :=
    (⟨[], List.nodup_nil⟩, reasoning)
      |> recommendWhen (mentionsAny descriptionLower ["real-time", "realtime", "rt", "low latency", "latency-sensitive"])
          [("enable_rt_kernel", .bool true), ("power_mode", .str "ultra-low-latency")]
          "Real-time/low-latency keywords detected - enabling RT kernel"
      |> recommendWhen (mentionsAny descriptionLower ["dpdk", "user space networking", "packet processing"])
          [("enable_dpdk", .bool true), ("topology_policy", .str "single-numa-node")]
          "DPDK/packet processing detected - enabling user-level networking"
      |> recommendWhen (mentionsAny descriptionLower ["power efficient", "power saving", "energy"])
          [("per_pod_power_management", .bool true), ("power_mode", .str "default")]
          "Power efficiency mentioned - enabling per-pod power management"
      |> recommendWhen (mentionsAny descriptionLower ["numa", "locality", "affinity"])
          [("topology_policy", .str "single-numa-node")]
          "NUMA awareness mentioned - setting single-numa-node policy"
  ⟨workloadType, settings, reasoning, getTemplate workloadType⟩

/-! ## The server as a state machine -/

/-- A call of one of the modelled tools. -/
inductive ToolCall
  | analyzeClusterHardware (mustGatherPath : String)
  | validatePerformanceRequirements (args : ValidateArgs)
  | generatePpcCommand (args : GeneratePpcCommandArgs)
  | listWorkloadTemplates
  | getWorkloadRecommendations (workloadDescription : String)

/-- A tool's response. -/
inductive ToolResponse
  | analysis (response : Except PyError AnalyzeResponse)
  | validation (response : Except String ValidationReport)
  | generation (response : Except String GeneratedCommand)
  | templates (listing : List TemplateListing)
  | recommendations (result : Recommendations)

/-- One call: the response and the globals after it. -/
def handle (env : Environment) (state : ServerState) : ToolCall → ToolResponse × ServerState
  | .analyzeClusterHardware path =>
    let (response, next) := analyzeClusterHardware env state path
    (.analysis response, next)
  | .validatePerformanceRequirements args => (.validation (validatePerformanceRequirements state args), state)
  | .generatePpcCommand args => (.generation (generatePpcCommand state args), state)
  | .listWorkloadTemplates => (.templates listTemplates, state)
  | .getWorkloadRecommendations description => (.recommendations (getWorkloadRecommendations description), state)

/-- A sequence of calls: the responses and the final globals. -/
def run (env : Environment) : ServerState → List ToolCall → List ToolResponse × ServerState
  | state, [] => ([], state)
  | state, call :: rest =>
    let (response, next) := handle env state call
    let (responses, final) := run env next rest
    (response :: responses, final)

/-! ## The stored data is the analysis of the stored path -/

/-- The globals are unset, or hold the analysis of the stored path. -/
def StoredAnalysis (env : Environment) : ServerState → Prop
  | ⟨none, none⟩ => True
  | ⟨some hardwareInfo, some path⟩ => analyzePath env path = .ok hardwareInfo
  | _ => False

theorem storedAnalysis_initial (env : Environment) : StoredAnalysis env .initial := trivial

/-- Only an analysis that succeeds writes the globals, and it writes both. -/
theorem analyzeClusterHardware_state (env : Environment) (state : ServerState) (mustGatherPath : String) :
    (analyzeClusterHardware env state mustGatherPath).2 = state ∨
      ∃ resolvedPath hardwareInfo, env.resolvePath mustGatherPath = .ok resolvedPath ∧
        analyzePath env resolvedPath = .ok hardwareInfo ∧
        (analyzeClusterHardware env state mustGatherPath).2 = ⟨some hardwareInfo, some resolvedPath⟩ := by
  cases resolved : env.resolvePath mustGatherPath with
  | error => exact .inl (by simp only [analyzeClusterHardware, resolved])
  | ok resolvedPath =>
    cases analysed : analyzePath env resolvedPath with
    | error => exact .inl (by simp only [analyzeClusterHardware, resolved, analysed])
    | ok hardwareInfo =>
      refine .inr ⟨resolvedPath, hardwareInfo, rfl, analysed, ?_⟩
      simp only [analyzeClusterHardware, resolved, analysed]
      split <;> rfl

theorem handle_storedAnalysis {env : Environment} {state : ServerState} (stored : StoredAnalysis env state)
    (call : ToolCall) : StoredAnalysis env (handle env state call).2 := by
  cases call with
  | analyzeClusterHardware path =>
    rcases analyzeClusterHardware_state env state path with unchanged | ⟨_, hardwareInfo, -, analysed, written⟩
    · simpa [handle, unchanged] using stored
    · simpa [handle, written, StoredAnalysis] using analysed
  | _ => exact stored

/-- Every run keeps the stored data the analysis of the stored path. -/
theorem run_storedAnalysis {env : Environment} {state : ServerState} (stored : StoredAnalysis env state)
    (calls : List ToolCall) : StoredAnalysis env (run env state calls).2 := by
  induction calls generalizing state with
  | nil => exact stored
  | cons call rest inductionHypothesis => exact inductionHypothesis (handle_storedAnalysis stored call)

/-- After any sequence of calls from start-up the two globals are unset together or set together,
and the stored data is then the analysis of the stored path. -/
theorem run_globals_agree (env : Environment) (calls : List ToolCall) :
    (run env .initial calls).2 = .initial ∨
      ∃ info path, (run env .initial calls).2 = ⟨some info, some path⟩ ∧ analyzePath env path = .ok info := by
  have stored := run_storedAnalysis (storedAnalysis_initial env) calls
  generalize (run env .initial calls).2 = state at stored ⊢
  obtain ⟨data, path⟩ := state
  cases data with
  | none =>
    cases path with
    | none => exact .inl rfl
    | some => exact (stored : False).elim
  | some info =>
    cases path with
    | none => exact (stored : False).elim
    | some path => exact .inr ⟨info, path, rfl, stored⟩

/-! ## The tool path forwards every option -/

/-- The tool forwards a non-`None` value for each of the seven core options, so each one
overrides the template's `default_config`. -/
theorem overrides_value?_core (args : GeneratePpcCommandArgs) {option : String}
    (core : option ∈ boolOptions ++ strOptions) : (args.overrides.value? option).isSome := by
  simp only [boolOptions, strOptions, List.cons_append, List.nil_append, List.mem_cons, List.not_mem_nil,
    or_false] at core
  rcases core with rfl | rfl | rfl | rfl | rfl | rfl | rfl <;> rfl

/-- Paths resolve to themselves and every path holds an empty bundle, which the parser reads as
its sample worker. -/
def sampleEnvironment : Environment := ⟨.ok, fun _ => some ⟨[]⟩, SetOrder.insertion⟩

/-- A 5G RAN call that supplies only the workload type and the pool name. -/
def ranCall : GeneratePpcCommandArgs := { workloadType := "5g-ran", mcpName := "worker-cnf" }

/-- After an analysis, a 5G RAN call that leaves the RT kernel unsupplied gets the tool's `False`,
where the template merged alone yields its `True`. -/
theorem generatePpcCommand_replaces_template_defaults :
    ∃ generated, generatePpcCommand (analyzeClusterHardware sampleEnvironment .initial "/must-gather").2 ranCall =
        .ok generated ∧ generated.parameters.find? "enable_rt_kernel" = some (.bool false) ∧
      ∃ params, generateParameters (.facts fallbackFacts) "5g-ran" "worker-cnf" "performance" (getTemplate "5g-ran")
          noOverrides = .ok params ∧ params.find? "enable_rt_kernel" = some (.bool true) :=
  ⟨_, rfl, rfl, _, rfl, rfl⟩

end ProfileCreator.McpServer
