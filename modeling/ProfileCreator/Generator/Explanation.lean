import ProfileCreator.Generator.Command
import ProfileCreator.Generator.Properties

/-! # The explanation against the command

`build_command` appends one part per option and `explain_parameters` one group of lines per
option, each from the same parameter map. The command is read here as the list of parts it joins
and the explanation as the list of lines it joins (`buildCommand_eq_commandParts`,
`explainParameters_eq_explanationLines`); `Projection` says what it means for the two to describe
the same configuration, one field per option, each proved from what the option makes of a part
and of a line (`mem_commandParts_switch`, `mem_explanationLines_switch`, …). The power mode is
apart (`PowerModeAgrees`): the two agree on it exactly for the documented modes
(`powerModeAgrees_iff`).

Every part and every line starts with a fixed text, and the fixed texts differ within their first
few characters, so a part or line is told apart from the others by its start alone, whatever value
follows it (`append_ne_of_diverge`).
-/

namespace ProfileCreator.PPCCommandGenerator

open ProfileCreator.Python ProfileCreator.Hardware ProfileCreator.WorkloadTemplates ProfileCreator.MustGatherParser

/-! ## Telling rendered texts apart -/

/-- Neither text starts with the other: they differ at a place where both have a character. -/
def Diverge (first second : String) : Bool :=
  !first.toList.isPrefixOf second.toList && !second.toList.isPrefixOf first.toList

theorem append_ne_of_diverge {first second : String} (diverge : Diverge first second = true)
    (rest other : String) : first ++ rest ≠ second ++ other := by
  intro same
  have spelled : first.toList ++ rest.toList = second.toList ++ other.toList := congrArg String.data same
  simp only [Diverge, Bool.and_eq_true, Bool.not_eq_true', Bool.eq_false_iff, ne_eq,
    List.isPrefixOf_iff_prefix] at diverge
  rcases List.append_eq_append_iff.mp spelled with ⟨middle, longer, -⟩ | ⟨middle, longer, -⟩
  · exact diverge.1 ⟨middle, longer.symm⟩
  · exact diverge.2 ⟨middle, longer.symm⟩

@[simp] theorem append_left_cancel_iff (first rest other : String) : first ++ rest = first ++ other ↔ rest = other := by
  simp only [String.ext_iff, String.data_append, List.append_cancel_left_eq]

@[simp] theorem append_right_cancel_iff (first second rest : String) : first ++ rest = second ++ rest ↔ first = second := by
  simp only [String.ext_iff, String.data_append, List.append_cancel_right_eq]

theorem append_eq_append_iff_false {first second : String} (diverge : Diverge first second = true)
    (rest other : String) : first ++ rest = second ++ other ↔ False :=
  iff_false_intro (append_ne_of_diverge diverge rest other)

theorem eq_append_iff_false {text start : String} (diverge : Diverge text start = true) (rest : String) :
    text = start ++ rest ↔ False := by
  rw [← String.append_empty text]
  exact append_eq_append_iff_false diverge "" rest

theorem append_eq_iff_false {text start : String} (diverge : Diverge start text = true) (rest : String) :
    start ++ rest = text ↔ False := by
  rw [← String.append_empty text]
  exact append_eq_append_iff_false diverge rest ""

theorem arrowLine_eq_append (text : String) : arrowLine text = arrowLine "" ++ text := by
  rw [arrowLine, arrowLine, String.append_empty]

@[simp] theorem arrowLine_inj (first second : String) : arrowLine first = arrowLine second ↔ first = second := by
  rw [arrowLine_eq_append first, arrowLine_eq_append second, append_left_cancel_iff]

theorem arrowLine_eq_append_iff_false {start : String} (diverge : Diverge (arrowLine "") start = true)
    (text rest : String) : arrowLine text = start ++ rest ↔ False := by
  rw [arrowLine_eq_append]
  exact append_eq_append_iff_false diverge text rest

theorem append_eq_arrowLine_iff_false {start : String} (diverge : Diverge start (arrowLine "") = true)
    (text rest : String) : start ++ rest = arrowLine text ↔ False := by
  rw [arrowLine_eq_append]
  exact append_eq_append_iff_false diverge rest text

theorem arrowLine_eq_iff_false {line : String} (diverge : Diverge (arrowLine "") line = true) (text : String) :
    arrowLine text = line ↔ False := by
  rw [arrowLine_eq_append]
  exact append_eq_iff_false diverge text

theorem eq_arrowLine_iff_false {line : String} (diverge : Diverge line (arrowLine "") = true) (text : String) :
    line = arrowLine text ↔ False := by
  rw [arrowLine_eq_append]
  exact eq_append_iff_false diverge text

theorem mem_ite_iff {condition : Prop} [Decidable condition] {text : String} {first second : List String} :
    text ∈ (if condition then first else second) ↔ condition ∧ text ∈ first ∨ ¬condition ∧ text ∈ second := by
  split_ifs with holds <;> simp [holds]

/-- The rule `"=" * 50` under the title. -/
theorem rule_eq : String.mk (List.replicate 50 '=') = "==================================================" := rfl

theorem lower_toStr_bool_eq_true (flag : Bool) : lower (PyValue.bool flag).toStr = "true" ↔ flag = true := by
  cases flag <;> decide

theorem rtKernel_part_eq_iff (word : String) : "--rt-kernel true" = "--rt-kernel " ++ word ↔ word = "true" :=
  (append_left_cancel_iff "--rt-kernel " "true" word).trans eq_comm

/-! ## The parts and the lines -/

/-- The parts `build_command` joins, with the three values it indexes read by `get`; they are the
parts it renders whenever it returns (`buildCommand_eq_commandParts`). -/
def commandParts (mustGatherPath : String) (params : PyDict) : List String :=
  let powerMode := params.getD "power_mode" (.str "default")
  ["podman run --entrypoint performance-profile-creator",
   "-v " ++ mustGatherPath ++ ":/must-gather:z",
   "quay.io/openshift/origin-cluster-node-tuning-operator:" ++ "4.11",
   "--must-gather-dir-path /must-gather",
   "--mcp-name " ++ (params.getD "mcp_name" .none).toStr,
   "--profile-name " ++ (params.getD "profile_name" .none).toStr,
   "--reserved-cpu-count " ++ (params.getD "reserved_cpu_count" .none).toStr,
   "--rt-kernel " ++ lower (params.getD "enable_rt_kernel" (.bool false)).toStr] ++
  switchPart params "disable_ht" "--disable-ht" ++
  switchPart params "enable_dpdk" "--user-level-networking" ++
  switchPart params "split_reserved_across_numa" "--split-reserved-cpus-across-numa" ++
  switchPart params "per_pod_power_management" "--per-pod-power-management" ++
  (if powerMode ≠ .str "default" then ["--power-consumption-mode " ++ powerMode.toStr] else []) ++
  ["--topology-manager-policy " ++ (params.getD "topology_policy" (.str "restricted")).toStr,
   "> performance-profile.yaml"]

theorem buildCommand_eq_commandParts {summary : HardwareSummary} {architecture : Yaml}
    (listed : summary.firstArchitecture (.str "amd64") = .ok architecture) {params : PyDict}
    {mcpName profileName reserved : PyValue} (mcpNamed : params.find? "mcp_name" = some mcpName)
    (profileNamed : params.find? "profile_name" = some profileName)
    (sized : params.find? "reserved_cpu_count" = some reserved) (mustGatherPath : String) :
    buildCommand summary mustGatherPath params = .ok (partSeparator.intercalate (commandParts mustGatherPath params)) := by
  simp only [buildCommand, commandParts, listed, PyDict.getItem, PyDict.getD_eq, mcpNamed, profileNamed, sized,
    Option.getD_some, bind, Except.bind, pure, Except.pure]

/-- The lines `explain_parameters` joins, with `mcp_name` read by `get` and the isolated count
given; they are the lines it renders whenever it returns (`explainParameters_eq_explanationLines`). -/
def explanationLines (summary : HardwareSummary) (params : PyDict) (isolated : String) : List String :=
  let mcpName := params.getD "mcp_name" .none
  ["Parameter Explanation:", String.mk (List.replicate 50 '='),
   "\n\uf8ff\xfc\xec\xb6 Profile Configuration:",
   "  - Profile Name: " ++ (params.getD "profile_name" (.str "performance")).toStr,
   "  - MachineConfigPool: " ++ mcpName.toStr,
   arrowLine ("This profile will apply to nodes in the '" ++ mcpName.toStr ++ "' MCP"),
   "\n\uf8ff\xfc\xf1\u2022\xd4\u220f\xe8  CPU Allocation:",
   "  - Reserved CPUs: " ++ (params.getD "reserved_cpu_count" (.int 0)).toStr,
   arrowLine "Used for system processes (kubelet, container runtime)",
   "  - Isolated CPUs: ~" ++ isolated,
   arrowLine "Dedicated to application workloads"] ++
  (if (params.getD "disable_ht" .none).truthy then
    ["  - Hyperthreading: DISABLED", arrowLine "Reduces CPU count but improves deterministic behavior"]
   else []) ++
  (if (params.getD "split_reserved_across_numa" .none).truthy then
    ["  - Reserved CPUs will be split across " ++ toString (summary.numaNodesPerNode?.getD 1) ++ " NUMA node(s)",
     arrowLine "Improves NUMA locality for system processes"]
   else []) ++
  "\n\u201a\xf6\xf4\xd4\u220f\xe8  Kernel Configuration:" ::
  (if (params.getD "enable_rt_kernel" .none).truthy then
    ["  - Real-Time Kernel: ENABLED", arrowLine "Provides deterministic latency for time-sensitive workloads",
     "    \u201a\xf6\u2020\xd4\u220f\xe8  Requires node reboot during application"]
   else ["  - Real-Time Kernel: DISABLED", arrowLine "Standard kernel will be used"]) ++
  (if (params.getD "enable_dpdk" .none).truthy then
    ["\n\uf8ff\xfc\xe5\xea Network Configuration:", "  - User-Level Networking (DPDK): ENABLED",
     arrowLine "Optimizes for high-throughput packet processing", arrowLine "Typically requires 1G hugepages"]
   else []) ++
  "\n\uf8ff\xfc\xf3\u222b\xd4\u220f\xe8  NUMA Topology:" ::
  policyLines (params.getD "topology_policy" (.str "restricted")) ++
  "\n\u201a\xf6\xb0 Power Management:" ::
  powerModeLines (params.getD "power_mode" (.str "default")) ++
  (if (params.getD "per_pod_power_management" .none).truthy then
    ["  - Per-Pod Power Management: ENABLED", arrowLine "Allows pod-level power tuning"]
   else [])

theorem explainParameters_eq_explanationLines (summary : HardwareSummary) {params : PyDict} {mcpName : PyValue}
    (mcpNamed : params.find? "mcp_name" = some mcpName) {reserved : Int}
    (sized : params.find? "reserved_cpu_count" = some (.int reserved)) :
    ∃ isolated, explainParameters summary params = .ok ("\n".intercalate (explanationLines summary params isolated)) := by
  simp only [explainParameters, explanationLines, PyDict.getItem, mcpNamed, PyDict.getD_eq, sized, Option.getD_some,
    bind, Except.bind, pure, Except.pure]
  split <;> exact ⟨_, rfl⟩

/-! ## Which parts and lines the options give

Each part of the command and each line of the explanation that the projection compares is there
exactly when the option it renders says so. -/

section Membership

variable (summary : HardwareSummary) (mustGatherPath : String) (params : PyDict) (isolated : String)

theorem mem_commandParts_rtKernel :
    "--rt-kernel true" ∈ commandParts mustGatherPath params ↔
      lower (params.getD "enable_rt_kernel" (.bool false)).toStr = "true" := by
  simp (disch := decide) only [commandParts, switchPart, List.mem_append, List.mem_cons, List.mem_ite_nil_right,
    List.not_mem_nil, String.append_assoc, String.reduceEq, eq_append_iff_false, rtKernel_part_eq_iff, or_false,
    false_or, and_false, eq_comm]

theorem mem_commandParts_switch (key : String) {flag : String}
    (switch : (key, flag) ∈ [("disable_ht", "--disable-ht"), ("enable_dpdk", "--user-level-networking"),
      ("split_reserved_across_numa", "--split-reserved-cpus-across-numa"),
      ("per_pod_power_management", "--per-pod-power-management")]) :
    flag ∈ commandParts mustGatherPath params ↔ (params.getD key .none).truthy := by
  simp only [List.mem_cons, Prod.mk.injEq, List.not_mem_nil, or_false] at switch
  rcases switch with ⟨rfl, rfl⟩ | ⟨rfl, rfl⟩ | ⟨rfl, rfl⟩ | ⟨rfl, rfl⟩ <;>
  simp (disch := decide) only [commandParts, switchPart, List.mem_append, List.mem_cons, List.mem_ite_nil_right,
    List.not_mem_nil, String.append_assoc, String.reduceEq, eq_append_iff_false, or_false, false_or, and_false,
    and_true, or_true, true_or, mem_ite_iff]

theorem mem_commandParts_reserved (count : String) :
    "--reserved-cpu-count " ++ count ∈ commandParts mustGatherPath params ↔
      count = (params.getD "reserved_cpu_count" .none).toStr := by
  simp (disch := decide) only [commandParts, switchPart, List.mem_append, List.mem_cons, List.mem_ite_nil_right,
    List.not_mem_nil, String.append_assoc, String.reduceEq, append_eq_iff_false, append_eq_append_iff_false,
    append_left_cancel_iff, or_false, false_or, and_false, mem_ite_iff, List.mem_singleton]

theorem mem_commandParts_topologyPolicy (policy : String) :
    "--topology-manager-policy " ++ policy ∈ commandParts mustGatherPath params ↔
      policy = (params.getD "topology_policy" (.str "restricted")).toStr := by
  simp (disch := decide) only [commandParts, switchPart, List.mem_append, List.mem_cons, List.mem_ite_nil_right,
    List.not_mem_nil, String.append_assoc, String.reduceEq, append_eq_iff_false, append_eq_append_iff_false,
    append_left_cancel_iff, or_false, false_or, and_false, mem_ite_iff, List.mem_singleton]

theorem mem_commandParts_powerMode :
    (∃ mode, "--power-consumption-mode " ++ mode ∈ commandParts mustGatherPath params) ↔
      params.getD "power_mode" (.str "default") ≠ .str "default" := by
  simp (disch := decide) only [commandParts, switchPart, List.mem_append, List.mem_cons, List.mem_ite_nil_right,
    List.not_mem_nil, String.append_assoc, String.reduceEq, append_eq_iff_false, append_eq_append_iff_false,
    append_left_cancel_iff, or_false, false_or, and_false, mem_ite_iff, List.mem_singleton, exists_and_left,
    exists_eq, and_true]

theorem mem_explanationLines_rtKernel :
    "  - Real-Time Kernel: ENABLED" ∈ explanationLines summary params isolated ↔
      (params.getD "enable_rt_kernel" .none).truthy := by
  simp (disch := decide) only [explanationLines, policyLines, powerModeLines, List.mem_append, List.mem_cons,
    List.mem_ite_nil_right, List.not_mem_nil, mem_ite_iff, eq_ite_iff, rule_eq, String.append_assoc,
    String.reduceEq, eq_append_iff_false, eq_arrowLine_iff_false, or_false, false_or, and_false, and_true,
    true_or, or_true, and_self]

theorem mem_explanationLines_switch (key : String) {line : String}
    (switch : (key, line) ∈ [("disable_ht", "  - Hyperthreading: DISABLED"),
      ("enable_dpdk", "  - User-Level Networking (DPDK): ENABLED"),
      ("per_pod_power_management", "  - Per-Pod Power Management: ENABLED")]) :
    line ∈ explanationLines summary params isolated ↔ (params.getD key .none).truthy := by
  simp only [List.mem_cons, Prod.mk.injEq, List.not_mem_nil, or_false] at switch
  rcases switch with ⟨rfl, rfl⟩ | ⟨rfl, rfl⟩ | ⟨rfl, rfl⟩ <;>
  simp (disch := decide) only [explanationLines, policyLines, powerModeLines, List.mem_append, List.mem_cons,
    List.mem_ite_nil_right, List.not_mem_nil, mem_ite_iff, eq_ite_iff, rule_eq, String.append_assoc,
    String.reduceEq, eq_append_iff_false, eq_arrowLine_iff_false, or_false, false_or, and_false, and_true,
    true_or, or_true, and_self]

theorem mem_explanationLines_numaSplit :
    (∃ numaNodes, "  - Reserved CPUs will be split across " ++ numaNodes ++ " NUMA node(s)" ∈
        explanationLines summary params isolated) ↔ (params.getD "split_reserved_across_numa" .none).truthy := by
  simp (disch := decide) only [explanationLines, policyLines, powerModeLines, List.mem_append, List.mem_cons,
    List.mem_ite_nil_right, List.not_mem_nil, mem_ite_iff, eq_ite_iff, rule_eq, String.append_assoc,
    String.reduceEq, append_eq_iff_false, append_eq_append_iff_false, append_eq_arrowLine_iff_false,
    append_left_cancel_iff, append_right_cancel_iff, or_false, false_or, and_false, and_true, exists_and_left,
    exists_eq', exists_eq, true_or, or_true, and_self]

theorem mem_explanationLines_reserved (count : String) :
    "  - Reserved CPUs: " ++ count ∈ explanationLines summary params isolated ↔
      count = (params.getD "reserved_cpu_count" (.int 0)).toStr := by
  simp (disch := decide) only [explanationLines, policyLines, powerModeLines, List.mem_append, List.mem_cons,
    List.mem_ite_nil_right, List.not_mem_nil, mem_ite_iff, eq_ite_iff, rule_eq, String.append_assoc,
    String.reduceEq, append_eq_iff_false, append_eq_append_iff_false, append_eq_arrowLine_iff_false,
    append_left_cancel_iff, or_false, false_or, and_false, and_true]

theorem mem_explanationLines_topologyPolicy (policy : String) :
    "  - Topology Manager Policy: " ++ policy ∈ explanationLines summary params isolated ↔
      policy = (params.getD "topology_policy" (.str "restricted")).toStr := by
  simp (disch := decide) only [explanationLines, policyLines, powerModeLines, List.mem_append, List.mem_cons,
    List.mem_ite_nil_right, List.not_mem_nil, mem_ite_iff, eq_ite_iff, rule_eq, String.append_assoc,
    String.reduceEq, append_eq_iff_false, append_eq_append_iff_false, append_eq_arrowLine_iff_false,
    append_left_cancel_iff, or_false, false_or, and_false, and_true]

theorem mem_explanationLines_standardPower :
    arrowLine "Standard power management" ∈ explanationLines summary params isolated ↔
      params.getD "power_mode" (.str "default") ∉ [.str "ultra-low-latency", .str "low-latency"] := by
  simp (disch := decide) only [explanationLines, policyLines, powerModeLines, List.mem_append, List.mem_cons,
    List.mem_ite_nil_right, List.not_mem_nil, mem_ite_iff, eq_ite_iff, rule_eq, String.append_assoc,
    String.reduceEq, eq_append_iff_false, arrowLine_eq_iff_false, arrowLine_eq_append_iff_false, arrowLine_inj,
    or_false, false_or, and_false, and_true, not_or]

end Membership

/-! ## The two describe the same configuration -/

/-- The command's parts and the explanation's lines describe the same configuration: each switch
is a part exactly when the explanation reports its option on, and both name the same reserved
count and topology policy. -/
structure Projection (parts lines : List String) : Prop where
  rtKernel : "--rt-kernel true" ∈ parts ↔ "  - Real-Time Kernel: ENABLED" ∈ lines
  disableHt : "--disable-ht" ∈ parts ↔ "  - Hyperthreading: DISABLED" ∈ lines
  dpdk : "--user-level-networking" ∈ parts ↔ "  - User-Level Networking (DPDK): ENABLED" ∈ lines
  numaSplit : "--split-reserved-cpus-across-numa" ∈ parts ↔
    ∃ numaNodes, "  - Reserved CPUs will be split across " ++ numaNodes ++ " NUMA node(s)" ∈ lines
  perPod : "--per-pod-power-management" ∈ parts ↔ "  - Per-Pod Power Management: ENABLED" ∈ lines
  reserved : ∀ count, "--reserved-cpu-count " ++ count ∈ parts ↔ "  - Reserved CPUs: " ++ count ∈ lines
  topologyPolicy : ∀ policy, "--topology-manager-policy " ++ policy ∈ parts ↔
    "  - Topology Manager Policy: " ++ policy ∈ lines

/-- The command asks for a power mode exactly when the explanation describes a non-standard one. -/
def PowerModeAgrees (parts lines : List String) : Prop :=
  (∃ mode, "--power-consumption-mode " ++ mode ∈ parts) ↔ arrowLine "Standard power management" ∉ lines

/-- The power modes the tool documents. -/
def documentedPowerModes : List PyValue := [.str "default", .str "low-latency", .str "ultra-low-latency"]

/-- With a bool RT-kernel flag and an int reserved count, the parts and the lines describe the
same configuration, whatever the power mode and the topology policy. The switches need no type:
both sides test them for truth. -/
theorem projection_of_typed (summary : HardwareSummary) (mustGatherPath : String) {params : PyDict}
    {rtKernel : Bool} {reserved : Int} (kernel : params.find? "enable_rt_kernel" = some (.bool rtKernel))
    (sized : params.find? "reserved_cpu_count" = some (.int reserved)) (isolated : String) :
    Projection (commandParts mustGatherPath params) (explanationLines summary params isolated) where
  rtKernel := by
    rw [mem_commandParts_rtKernel, mem_explanationLines_rtKernel, PyDict.getD_eq, PyDict.getD_eq, kernel,
      Option.getD_some, Option.getD_some, lower_toStr_bool_eq_true, PyValue.truthy_bool]
  disableHt :=
    (mem_commandParts_switch mustGatherPath params "disable_ht" (by decide)).trans
      (mem_explanationLines_switch summary params isolated "disable_ht" (by decide)).symm
  dpdk :=
    (mem_commandParts_switch mustGatherPath params "enable_dpdk" (by decide)).trans
      (mem_explanationLines_switch summary params isolated "enable_dpdk" (by decide)).symm
  numaSplit :=
    (mem_commandParts_switch mustGatherPath params "split_reserved_across_numa" (by decide)).trans
      (mem_explanationLines_numaSplit summary params isolated).symm
  perPod :=
    (mem_commandParts_switch mustGatherPath params "per_pod_power_management" (by decide)).trans
      (mem_explanationLines_switch summary params isolated "per_pod_power_management" (by decide)).symm
  reserved count := by
    rw [mem_commandParts_reserved, mem_explanationLines_reserved, PyDict.getD_eq, PyDict.getD_eq, sized]
    rfl
  topologyPolicy policy :=
    (mem_commandParts_topologyPolicy mustGatherPath params policy).trans
      (mem_explanationLines_topologyPolicy summary params isolated policy).symm

/-- The power-mode correspondence holds exactly for the documented modes: the command asks for
every mode but `"default"`, and the explanation recognises only the two low-latency ones. -/
theorem powerModeAgrees_iff (summary : HardwareSummary) (mustGatherPath : String) (params : PyDict)
    (isolated : String) :
    PowerModeAgrees (commandParts mustGatherPath params) (explanationLines summary params isolated) ↔
      params.getD "power_mode" (.str "default") ∈ documentedPowerModes := by
  rw [PowerModeAgrees, mem_commandParts_powerMode, mem_explanationLines_standardPower, not_not]
  generalize params.getD "power_mode" (.str "default") = mode
  by_cases isDefault : mode = .str "default"
  · simp [isDefault, documentedPowerModes]
  · simp [isDefault, documentedPowerModes, or_comm]

/-! ## For the maps `generate_parameters` returns -/

/-- For a map `generate_parameters` returns for keyword arguments of the tool's types, both
renderers return and describe the same configuration, and they agree on the power mode exactly
when it is one of the documented three. -/
theorem generateParameters_explanation_projects_command {summary : HardwareSummary}
    {workloadType mcpName profileName : String} {template : Option WorkloadTemplate} {overrides : Overrides}
    {params : PyDict} {architecture : Yaml} (typed : overrides.WellTyped)
    (returns : generateParameters summary workloadType mcpName profileName template overrides = .ok params)
    (listed : summary.firstArchitecture (.str "amd64") = .ok architecture) (mustGatherPath : String) :
    buildCommand summary mustGatherPath params = .ok (partSeparator.intercalate (commandParts mustGatherPath params)) ∧
      ∃ isolated, explainParameters summary params = .ok ("\n".intercalate (explanationLines summary params isolated)) ∧
        Projection (commandParts mustGatherPath params) (explanationLines summary params isolated) ∧
        (PowerModeAgrees (commandParts mustGatherPath params) (explanationLines summary params isolated) ↔
          params.getD "power_mode" (.str "default") ∈ documentedPowerModes) := by
  have synthesized := synthesized_of_generateParameters typed returns
  obtain ⟨count, sized⟩ := synthesized.reservedCount
  obtain ⟨rtKernel, kernel⟩ := synthesized.optionsTyped.bools "enable_rt_kernel" (by decide)
  obtain ⟨isolated, explained⟩ := explainParameters_eq_explanationLines summary synthesized.mcpNamed sized
  exact ⟨buildCommand_eq_commandParts listed synthesized.mcpNamed synthesized.profileNamed sized mustGatherPath,
    isolated, explained, projection_of_typed summary mustGatherPath kernel sized isolated,
    powerModeAgrees_iff summary mustGatherPath params isolated⟩

theorem generateParameters_explanation_projects_command_on_sample :
    perPodOverrides.WellTyped ∧
      ∃ params, generateParameters (.facts fallbackFacts) "5g-ran" "worker-cnf" "performance" (getTemplate "5g-ran")
          perPodOverrides = .ok params ∧
        (buildCommand (.facts fallbackFacts) "/must-gather" params =
            .ok (partSeparator.intercalate (commandParts "/must-gather" params)) ∧
          ∃ isolated, explainParameters (.facts fallbackFacts) params =
              .ok ("\n".intercalate (explanationLines (.facts fallbackFacts) params isolated)) ∧
            Projection (commandParts "/must-gather" params) (explanationLines (.facts fallbackFacts) params isolated) ∧
            (PowerModeAgrees (commandParts "/must-gather" params) (explanationLines (.facts fallbackFacts) params isolated) ↔
              params.getD "power_mode" (.str "default") ∈ documentedPowerModes)) :=
  ⟨by decide, _, rfl,
    @generateParameters_explanation_projects_command (.facts fallbackFacts) "5g-ran" "worker-cnf" "performance"
      (getTemplate "5g-ran") perPodOverrides _ _ (by decide) rfl rfl "/must-gather"⟩

/-- The keyword arguments of a call with a power mode outside the documented three. -/
def highPerformanceOverrides : Overrides := ⟨PyDict.ofList [("power_mode", .str "high-performance")], by decide⟩

/-- A power mode outside the documented three: the command asks for it, and the explanation calls
it standard power management. -/
theorem explanation_calls_unknown_mode_standard :
    ∃ params, generateParameters (.facts fallbackFacts) "5g-ran" "worker-cnf" "performance" (getTemplate "5g-ran")
        highPerformanceOverrides = .ok params ∧
      buildCommand (.facts fallbackFacts) "/must-gather" params =
        .ok (partSeparator.intercalate (commandParts "/must-gather" params)) ∧
      explainParameters (.facts fallbackFacts) params =
        .ok ("\n".intercalate (explanationLines (.facts fallbackFacts) params "44")) ∧
      "--power-consumption-mode high-performance" ∈ commandParts "/must-gather" params ∧
      arrowLine "Standard power management" ∈ explanationLines (.facts fallbackFacts) params "44" ∧
      ¬PowerModeAgrees (commandParts "/must-gather" params) (explanationLines (.facts fallbackFacts) params "44") :=
  ⟨_, rfl, rfl, rfl, by decide, by decide, fun agrees => agrees.mp ⟨"high-performance", by decide⟩ (by decide)⟩

end ProfileCreator.PPCCommandGenerator
