import ProfileCreator.Generator.Synthesis

/-! # Rendering the parameters: `build_command` and `explain_parameters`

`build_command` joins its parts with a backslash, a newline and two spaces, so the shell sees one
logical line. Every value is rendered with `str`, unquoted. The architecture it reads is never
used, but reading it raises on an empty list.

`explain_parameters` writes one line per fact. The source file's emoji were saved in a legacy
encoding; the strings below are the characters the file holds.
-/

namespace ProfileCreator.PPCCommandGenerator

open ProfileCreator.Python ProfileCreator.Hardware

/-! ## `build_command` -/

/-- A switch of `cmd_parts`: `flag` when `params.get(key)` is truthy. -/
def switchPart (params : PyDict) (key flag : String) : List String :=
  if (params.getD key .none).truthy then [flag] else []

/-- The separator `" \\\n  "` of `cmd_parts`. -/
def partSeparator : String := " \\\n  "

/-- `build_command`. -/
def buildCommand (summary : HardwareSummary) (mustGatherPath : String) (params : PyDict) :
    Except PyError String := do
  let _ ← summary.firstArchitecture (.str "amd64")
  let imageTag := "4.11"
  let mcpName ← params.getItem "mcp_name"
  let profileName ← params.getItem "profile_name"
  let reservedCpuCount ← params.getItem "reserved_cpu_count"
  let powerMode := params.getD "power_mode" (.str "default")
  let topologyPolicy := params.getD "topology_policy" (.str "restricted")
  let cmdParts :=
    ["podman run --entrypoint performance-profile-creator",
     "-v " ++ mustGatherPath ++ ":/must-gather:z",
     "quay.io/openshift/origin-cluster-node-tuning-operator:" ++ imageTag,
     "--must-gather-dir-path /must-gather",
     "--mcp-name " ++ mcpName.toStr,
     "--profile-name " ++ profileName.toStr,
     "--reserved-cpu-count " ++ reservedCpuCount.toStr,
     "--rt-kernel " ++ lower (params.getD "enable_rt_kernel" (.bool false)).toStr] ++
    switchPart params "disable_ht" "--disable-ht" ++
    switchPart params "enable_dpdk" "--user-level-networking" ++
    switchPart params "split_reserved_across_numa" "--split-reserved-cpus-across-numa" ++
    switchPart params "per_pod_power_management" "--per-pod-power-management" ++
    (if powerMode ≠ .str "default" then ["--power-consumption-mode " ++ powerMode.toStr] else []) ++
    ["--topology-manager-policy " ++ topologyPolicy.toStr,
     "> performance-profile.yaml"]
  pure (partSeparator.intercalate cmdParts)

/-! ## `explain_parameters` -/

/-- The arrow that starts each detail line, as the source file holds it. -/
def arrowMark : String := "\u201a\xdc\xed"

/-- A detail line `"    → text"`. -/
def arrowLine (text : String) : String := "    " ++ arrowMark ++ " " ++ text

/-- The lines on the topology manager policy. -/
def policyLines (policy : PyValue) : List String :=
  ["  - Topology Manager Policy: " ++ policy.toStr,
   if policy = .str "single-numa-node" then arrowLine "Pods must fit within a single NUMA node"
   else if policy = .str "restricted" then arrowLine "Pods prefer single NUMA node but can span"
   else arrowLine "Best-effort NUMA alignment"]

/-- The lines on the power mode. -/
def powerModeLines (powerMode : PyValue) : List String :=
  ("  - Power Mode: " ++ powerMode.toStr) ::
    if powerMode = .str "ultra-low-latency" then
      [arrowLine "Maximum performance, highest power consumption",
       arrowLine "C-states disabled, CPU frequency maximized"]
    else if powerMode = .str "low-latency" then [arrowLine "Balanced low-latency with controlled power"]
    else [arrowLine "Standard power management"]

/-- `explain_parameters`. -/
def explainParameters (summary : HardwareSummary) (params : PyDict) : Except PyError String := do
  let mcpName ← params.getItem "mcp_name"
  let reserved := params.getD "reserved_cpu_count" (.int 0)
  let cpusPerNode := summary.cpusPerNode?.getD 0
  let isolated ← if cpusPerNode > 0 then toString <$> reserved.subtractFrom cpusPerNode else pure "calculated"
  let explanations :=
    ["Parameter Explanation:", String.mk (List.replicate 50 '='),
     "\n\uf8ff\xfc\xec\xb6 Profile Configuration:",
     "  - Profile Name: " ++ (params.getD "profile_name" (.str "performance")).toStr,
     "  - MachineConfigPool: " ++ mcpName.toStr,
     arrowLine ("This profile will apply to nodes in the '" ++ mcpName.toStr ++ "' MCP"),
     "\n\uf8ff\xfc\xf1\u2022\xd4\u220f\xe8  CPU Allocation:",
     "  - Reserved CPUs: " ++ reserved.toStr,
     arrowLine "Used for system processes (kubelet, container runtime)",
     "  - Isolated CPUs: ~" ++ isolated,
     arrowLine "Dedicated to application workloads"] ++
    (if (params.getD "disable_ht" .none).truthy then
      ["  - Hyperthreading: DISABLED", arrowLine "Reduces CPU count but improves deterministic behavior"]
     else []) ++
    (if (params.getD "split_reserved_across_numa" .none).truthy then
      ["  - Reserved CPUs will be split across " ++ toString (summary.numaNodesPerNode?.getD 1) ++ " NUMA node(s)",
       arrowLine "Improves NUMA locality for system processes"]
     else []) ++
    "\n\u201a\xf6\xf4\xd4\u220f\xe8  Kernel Configuration:" ::
    (if (params.getD "enable_rt_kernel" .none).truthy then
      ["  - Real-Time Kernel: ENABLED", arrowLine "Provides deterministic latency for time-sensitive workloads",
       "    \u201a\xf6\u2020\xd4\u220f\xe8  Requires node reboot during application"]
     else ["  - Real-Time Kernel: DISABLED", arrowLine "Standard kernel will be used"]) ++
    (if (params.getD "enable_dpdk" .none).truthy then
      ["\n\uf8ff\xfc\xe5\xea Network Configuration:", "  - User-Level Networking (DPDK): ENABLED",
       arrowLine "Optimizes for high-throughput packet processing", arrowLine "Typically requires 1G hugepages"]
     else []) ++
    "\n\uf8ff\xfc\xf3\u222b\xd4\u220f\xe8  NUMA Topology:" ::
    policyLines (params.getD "topology_policy" (.str "restricted")) ++
    "\n\u201a\xf6\xb0 Power Management:" ::
    powerModeLines (params.getD "power_mode" (.str "default")) ++
    (if (params.getD "per_pod_power_management" .none).truthy then
      ["  - Per-Pod Power Management: ENABLED", arrowLine "Allows pod-level power tuning"]
     else [])
  pure ("\n".intercalate explanations)

/-! ## When rendering returns -/

/-- `build_command` returns once the architecture list is absent or non-empty and the three
required keys are set, and then renders exactly its parts. -/
theorem buildCommand_of_present {summary : HardwareSummary} {architecture : Yaml}
    (listed : summary.firstArchitecture (.str "amd64") = .ok architecture) {params : PyDict}
    {mcpName profileName reserved : PyValue} (mcpNamed : params.find? "mcp_name" = some mcpName)
    (profileNamed : params.find? "profile_name" = some profileName)
    (sized : params.find? "reserved_cpu_count" = some reserved) (mustGatherPath : String) :
    ∃ command, buildCommand summary mustGatherPath params = .ok command := by
  simp only [buildCommand, listed, PyDict.getItem, mcpNamed, profileNamed, sized, bind, Except.bind, pure,
    Except.pure]
  exact ⟨_, rfl⟩

/-- `explain_parameters` returns once `mcp_name` is set and, on a node of known size, the reserved
count is a number. -/
theorem explainParameters_of_present {params : PyDict} {mcpName : PyValue}
    (mcpNamed : params.find? "mcp_name" = some mcpName) (summary : HardwareSummary) {reserved : Int}
    (sized : params.find? "reserved_cpu_count" = some (.int reserved)) :
    ∃ explanation, explainParameters summary params = .ok explanation := by
  simp only [explainParameters, PyDict.getItem, mcpNamed, PyDict.getD_eq, sized, Option.getD_some, bind,
    Except.bind, pure, Except.pure]
  split <;> exact ⟨_, rfl⟩

end ProfileCreator.PPCCommandGenerator
