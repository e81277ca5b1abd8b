import ProfileCreator.Python.Yaml

/-! # Hardware information

`MustGatherParser.analyze_hardware` returns `{"nodes": [...], "summary": {...}}`, and both
`HardwareValidator` and `PPCCommandGenerator` read the summary with `dict.get` and a default
per key. This module gives the records those dictionaries hold:

* `CpuTopology` — the estimate `_extract_cpu_topology` makes for one node;
* `NodeInfo` — one node as `_extract_node_info` extracts it;
* `HardwareSummary` — either the no-data marker `{"error": ...}` or the aggregated facts;
* the per-key lookups (`cpusPerNode?` and so on) that a caller completes with its own default.
-/

namespace ProfileCreator.Hardware

open ProfileCreator.Python

/-- The CPU topology estimated for a node. -/
structure CpuTopology where
  totalCpus : Int
  numaNodes : Int
  coresPerSocket : Int
  threadsPerCore : Int
  sockets : Int
  deriving DecidableEq, Repr

/-- A node as `_extract_node_info` returns it. Fields read from the document without a type
check stay document objects. -/
structure NodeInfo where
  name : Yaml
  roles : List String
  architecture : Yaml
  cpuCapacity : Int
  cpuAllocatable : Int
  topology : CpuTopology
  memoryCapacity : Yaml
  memoryAllocatable : Yaml
  kernelVersion : Yaml
  osImage : Yaml
  labels : Yaml

/-- The aggregated summary of `_generate_summary` when it found nodes; `sampleTopology` is `none`
for the `{}` the code would take without a worker. -/
structure SummaryFacts where
  totalNodes : Nat
  workerNodes : Nat
  totalCpus : Int
  cpusPerNode : Int
  architectures : List Yaml
  numaNodesPerNode : Int
  hyperthreadingEnabled : Bool
  sampleTopology : Option CpuTopology

/-- The `summary` dictionary: the no-data marker, or the facts. -/
inductive HardwareSummary
  | noData (error : String)
  | facts (facts : SummaryFacts)

/-- What `analyze_hardware` returns and the tools pass on as hardware information. -/
structure HardwareInfo where
  nodes : List NodeInfo
  summary : HardwareSummary

namespace HardwareSummary

/-- `summary.get("cpus_per_node")`, absent from the no-data marker. -/
def cpusPerNode? : HardwareSummary → Option Int
  | noData _ => none
  | facts known => some known.cpusPerNode

/-- `summary.get("numa_nodes_per_node")`. -/
def numaNodesPerNode? : HardwareSummary → Option Int
  | noData _ => none
  | facts known => some known.numaNodesPerNode

/-- `summary.get("hyperthreading_enabled")`. -/
def hyperthreadingEnabled? : HardwareSummary → Option Bool
  | noData _ => none
  | facts known => some known.hyperthreadingEnabled

/-- `summary.get("architectures")`. -/
def architectures? : HardwareSummary → Option (List Yaml)
  | noData _ => none
  | facts known => some known.architectures

/-- `summary.get("architectures", [default])[0]`, which raises `IndexError` on an empty list. -/
def firstArchitecture (summary : HardwareSummary) (default : Yaml) : Except PyError Yaml :=
  match summary.architectures?.getD [default] with
  | first :: _ => .ok first
  | [] => .error (.indexError "list index out of range")

/-- The same summary listing `architectures` instead; the no-data marker has no list. -/
def withArchitectures (summary : HardwareSummary) (architectures : List Yaml) : HardwareSummary :=
  match summary with
  | noData error => noData error
  | facts known => facts { known with architectures := architectures }

end HardwareSummary

end ProfileCreator.Hardware
