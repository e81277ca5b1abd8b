import ProfileCreator.Templates.Catalog
import ProfileCreator.Hardware.Topology
import ProfileCreator.Python.Double

/-! # Parameter synthesis in `PPCCommandGenerator`

`generate_parameters` seeds a parameter map from the template's `default_config` (or the base
defaults), names it, sizes the reserved CPUs with a heuristic when nothing fixes them, applies
every non-`None` override and repairs conflicts with `_adjust_parameters`. The first four steps
are `mergeParameters`; `_adjust_parameters` is its three rules in order.

Outside the latency-sensitive workloads the heuristic takes `int(cpus_per_node * 0.1)`, the
double product of `ProfileCreator.Python.Double`: for a node count beyond a double's range it
raises `OverflowError`, and so does `generate_parameters`.
-/

namespace ProfileCreator.PPCCommandGenerator

open ProfileCreator.Python ProfileCreator.Hardware ProfileCreator.WorkloadTemplates

/-- The keyword arguments `**overrides` collects. Python binds `self`, `workload_type`,
`mcp_name`, `profile_name` and `template` to the named parameters, so they never reach it. -/
structure Overrides where
  dict : PyDict
  unnamed : ∀ name ∈ ["self", "workload_type", "mcp_name", "profile_name", "template"], dict.find? name = none

/-- A direct call of `generate_parameters` with no keyword arguments, as the generator tests make. -/
def noOverrides : Overrides := ⟨⟨[], List.nodup_nil⟩, by decide⟩

/-- A looked-up value unless it is `None`. -/
def nonNone : Option PyValue → Option PyValue
  | some .none => none
  | other => other

/-- The override for `key` that the merge applies: present and not `None`. -/
def Overrides.value? (overrides : Overrides) (key : String) : Option PyValue :=
  nonNone (overrides.dict.find? key)

/-- `_get_base_defaults`. -/
def baseDefaults : CoreConfig := ⟨false, false, false, "default", "restricted", false, false⟩

/-- `_get_base_defaults` as the dictionary it returns. -/
def getBaseDefaults : PyDict := baseDefaults.toDict

/-! ## `_calculate_reserved_cpus` -/

/-- `_calculate_reserved_cpus`: two CPUs per NUMA node for latency-sensitive workloads, a tenth
of the node otherwise, clamped by `max(2, min(reserved, cpus_per_node // 4))`. The tenth is
`int(cpus_per_node * 0.1)`, which raises for a node count beyond a double's range. -/
def calculateReservedCpus (summary : HardwareSummary) (workloadType : String) : Except PyError Int :=
  let cpusPerNode := summary.cpusPerNode?.getD 0
  let numaNodes := summary.numaNodesPerNode?.getD 1
  if cpusPerNode = 0 then .ok 4
  else do
    let baseReserved := max 2 (numaNodes * 2)
    let reserved ←
      if workloadType ∈ ["5g-ran", "telco-vnf"] then pure baseReserved
      else if workloadType = "database" then max 4 <$> intTimesTenth cpusPerNode
      else if workloadType = "ai-inference" then pure baseReserved
      else max 4 <$> intTimesTenth cpusPerNode
    pure (max 2 (min reserved (cpusPerNode / 4)))

/-! ## `_adjust_parameters` -/

/-- Per-pod power management is on while the power mode is not `"default"`. -/
def PowerModeConflict (params : PyDict) : Prop :=
  (params.getD "per_pod_power_management" .none).truthy ∧ params.find? "power_mode" ≠ some (.str "default")

/-- DPDK is on while the topology policy is neither `"single-numa-node"` nor `"restricted"`. -/
def TopologyConflict (params : PyDict) : Prop :=
  (params.getD "enable_dpdk" .none).truthy ∧
    params.find? "topology_policy" ∉ [some (.str "single-numa-node"), some (.str "restricted")]

instance (params : PyDict) : Decidable (PowerModeConflict params) := inferInstanceAs (Decidable (_ ∧ _))
instance (params : PyDict) : Decidable (TopologyConflict params) := inferInstanceAs (Decidable (_ ∧ _))

/-- The third rule's guard: a multi-NUMA node, no split requested, and at least two reserved
CPUs per NUMA node. -/
def NumaSplitDue (summary : HardwareSummary) (params : PyDict) : Prop :=
  summary.numaNodesPerNode?.getD 1 > 1 ∧ (params.getD "split_reserved_across_numa" .none).truthy = false ∧
    (params.getD "reserved_cpu_count" (.int 0)).geInt (summary.numaNodesPerNode?.getD 1 * 2) = .ok true

instance (summary : HardwareSummary) (params : PyDict) : Decidable (NumaSplitDue summary params) :=
  inferInstanceAs (Decidable (_ ∧ _ ∧ _))

/-- The first rule: per-pod power management wins over a non-default power mode. -/
def resolvePowerMode (params : PyDict) : PyDict :=
  if PowerModeConflict params then params.set "power_mode" (.str "default") else params

/-- The second rule: DPDK forces a single-NUMA-node topology policy unless it is restricted. -/
def resolveTopologyPolicy (params : PyDict) : PyDict :=
  if TopologyConflict params then params.set "topology_policy" (.str "single-numa-node") else params

/-- The third rule: on a multi-NUMA node, split the reserved CPUs when there are at least two per
NUMA node; comparing a non-numeric count raises. -/
def resolveNumaSplit (summary : HardwareSummary) (params : PyDict) : Except PyError PyDict := do
  let numaNodes := summary.numaNodesPerNode?.getD 1
  if numaNodes > 1 ∧ !(params.getD "split_reserved_across_numa" .none).truthy then
    if ← (params.getD "reserved_cpu_count" (.int 0)).geInt (numaNodes * 2) then
      pure (params.set "split_reserved_across_numa" (.bool true))
    else pure params
  else pure params

/-- `_adjust_parameters`. -/
def adjustParameters (summary : HardwareSummary) (params : PyDict) : Except PyError PyDict :=
  resolveNumaSplit summary (resolveTopologyPolicy (resolvePowerMode params))

/-! ## `generate_parameters` -/

/-- The seed: the template's `default_config`, or the base defaults. -/
def seedOf : Option WorkloadTemplate → PyDict
  | some template => template.defaultConfig.toDict
  | none => getBaseDefaults

/-- The map before the loop over the overrides: the seed, named, with the reserved CPUs sized by
the heuristic when neither an override nor the seed fixes them. -/
def seededParameters (summary : HardwareSummary) (workloadType mcpName profileName : String)
    (template : Option WorkloadTemplate) (overrides : Overrides) : Except PyError PyDict :=
  let named := ((seedOf template).set "mcp_name" (.str mcpName)).set "profile_name" (.str profileName)
  if (overrides.value? "reserved_cpu_count").isNone ∧ !named.contains "reserved_cpu_count" then do
    let reserved ← calculateReservedCpus summary workloadType
    pure (named.set "reserved_cpu_count" (.int reserved))
  else pure named

/-- The loop `for key, value in overrides.items(): if value is not None: params[key] = value`. -/
def applyOverrides (params : PyDict) (entries : List (String × PyValue)) : PyDict :=
  entries.foldl (fun params entry => if entry.2 = .none then params else params.set entry.1 entry.2) params

/-- The first four steps of `generate_parameters`: everything before `_adjust_parameters`. -/
def mergeParameters (summary : HardwareSummary) (workloadType mcpName profileName : String)
    (template : Option WorkloadTemplate) (overrides : Overrides) : Except PyError PyDict := do
  let seeded ← seededParameters summary workloadType mcpName profileName template overrides
  pure (applyOverrides seeded overrides.dict.entries)

/-- `generate_parameters`. -/
def generateParameters (summary : HardwareSummary) (workloadType mcpName profileName : String)
    (template : Option WorkloadTemplate) (overrides : Overrides) : Except PyError PyDict := do
  let merged ← mergeParameters summary workloadType mcpName profileName template overrides
  adjustParameters summary merged

end ProfileCreator.PPCCommandGenerator
