import ProfileCreator.Hardware.Topology

/-! # `MustGatherParser`

The parser globs node documents out of a must-gather bundle, extracts each `Node` document,
and aggregates the nodes into a summary:

* `nodeFiles` — the two glob patterns of `_parse_nodes`, the second only when the first finds
  nothing;
* `extractNodeInfo` — `_extract_node_info`, which turns every exception inside it into `None`;
* `parseNodes` — the loop of `_parse_nodes`, with the fabricated worker of
  `_parse_nodes_fallback` when no document yields a node;
* `generateSummary`, `analyzeHardware`, `getSummary`.

A bundle is the list of its files in the order `Path.glob` visits them, each with the object
`yaml.safe_load` built from it, or `none` when opening or loading the file raises.
-/

namespace ProfileCreator.MustGatherParser

open ProfileCreator.Python ProfileCreator.Hardware

/-- A file of a bundle: its path below the bundle root, and its loaded document. -/
structure BundleFile where
  path : List String
  document : Option Yaml

/-- A must-gather directory, as the files `Path.glob` visits. -/
structure Bundle where
  files : List BundleFile

/-- `name` matches `*.yaml`. -/
def yamlName (name : String) : Bool := endsWith name ".yaml"

/-- The pattern `*/cluster-scoped-resources/core/nodes/*.yaml`. -/
def standardLayout (file : BundleFile) : Bool :=
  match file.path with
  | [_, "cluster-scoped-resources", "core", "nodes", name] => yamlName name
  | _ => false

/-- The pattern `**/nodes/*.yaml`: any directories, then `nodes`, then a YAML file. -/
def alternativeLayout (file : BundleFile) : Bool :=
  match file.path.reverse with
  | name :: "nodes" :: _ => yamlName name
  | _ => false

/-- The files `_parse_nodes` reads: the standard layout, or the alternative one when the
standard layout matches nothing. -/
def nodeFiles (bundle : Bundle) : List BundleFile :=
  let standard := bundle.files.filter standardLayout
  if standard.isEmpty then bundle.files.filter alternativeLayout else standard

/-! ## `_extract_node_info` -/

/-- `int(value) if value.isdigit() else 0`: a non-string has no `isdigit`, and `int()` raises on
a digit that is not a decimal digit. -/
def digitCount : Yaml → Except PyError Int
  | .str value => if isDigits value then Int.ofNat <$> intOfDigits value else .ok 0
  | other => .error (.attributeError ("'" ++ other.typeName ++ "' object has no attribute 'isdigit'"))

/-- `_estimate_numa_nodes`. -/
def estimateNumaNodes (cpuCount : Int) : Int :=
  if cpuCount ≥ 64 then 4 else if cpuCount ≥ 32 then 2 else 1

/-- `_extract_cpu_topology`. -/
def extractCpuTopology (nodeData : Yaml) : Except PyError CpuTopology := do
  let status ← nodeData.getD "status" (.map [])
  let capacity ← status.getD "capacity" (.map [])
  let cpuCount ← digitCount (← capacity.getD "cpu" (.str "0"))
  pure
    { totalCpus := cpuCount
      numaNodes := estimateNumaNodes cpuCount
      coresPerSocket := if cpuCount > 0 then cpuCount / 2 else 0
      threadsPerCore := 2
      sockets := if cpuCount > 16 then 2 else 1 }

/-- The label prefix that names a node role. -/
def rolePrefix : String := "node-role.kubernetes.io/"

/-- `label_key.split('/')[-1]`. -/
def lastSegment (key : String) : String := ⟨(key.toList.reverse.takeWhile (· ≠ '/')).reverse⟩

/-- The roles loop over the label keys; `startswith` needs a string key. -/
def rolesOf : List Yaml → Except PyError (List String)
  | [] => .ok []
  | .str key :: rest => do
    let others ← rolesOf rest
    pure (if rolePrefix.toList.isPrefixOf key.toList ∧ lastSegment key ≠ "" then lastSegment key :: others
      else others)
  | other :: _ => .error (.attributeError ("'" ++ other.typeName ++ "' object has no attribute 'startswith'"))

/-- The body of `_extract_node_info`, before its `except` turns a failure into `None`. -/
def extractNodeInfoBody (nodeData : Yaml) : Except PyError NodeInfo := do
  let metadata ← nodeData.getD "metadata" (.map [])
  let status ← nodeData.getD "status" (.map [])
  let capacity ← status.getD "capacity" (.map [])
  let allocatable ← status.getD "allocatable" (.map [])
  let cpuCapacity ← capacity.getD "cpu" (.str "0")
  let memoryCapacity ← capacity.getD "memory" (.str "0")
  let nodeInfo ← status.getD "nodeInfo" (.map [])
  let architecture ← nodeInfo.getD "architecture" (.str "unknown")
  let kernelVersion ← nodeInfo.getD "kernelVersion" (.str "unknown")
  let osImage ← nodeInfo.getD "osImage" (.str "unknown")
  let labels ← metadata.getD "labels" (.map [])
  let roles ← rolesOf (← labels.iterate)
  let topology ← extractCpuTopology nodeData
  let name ← metadata.getD "name" (.str "unknown")
  let capacityCount ← digitCount cpuCapacity
  let allocatableCount ← digitCount (← allocatable.getD "cpu" (.str "0"))
  let memoryAllocatable ← allocatable.getD "memory" (.str "0")
  pure
    { name, roles, architecture, topology, memoryCapacity, memoryAllocatable, kernelVersion, osImage, labels
      cpuCapacity := capacityCount
      cpuAllocatable := allocatableCount }

/-- `_extract_node_info`: `None` whenever the body raises. -/
def extractNodeInfo (nodeData : Yaml) : Option NodeInfo :=
  match extractNodeInfoBody nodeData with
  | .ok info => some info
  | .error _ => none

/-! ## `_parse_nodes` -/

/-- One pass of the loop of `_parse_nodes`. A document that is not a mapping is skipped either
by `if not node_data` or by the `except` around `node_data.get`. -/
def parseNodeFile (file : BundleFile) : Option NodeInfo :=
  match file.document with
  | some (.map entries) =>
    if entries.isEmpty then none
    else
      match Yaml.lookupKey "kind" entries with
      | some (.str "Node") => extractNodeInfo (.map entries)
      | _ => none
  | _ => none

/-- The nodes extracted from the bundle's documents. -/
def acceptedNodes (bundle : Bundle) : List NodeInfo := (nodeFiles bundle).filterMap parseNodeFile

/-- `_parse_nodes_fallback`: a sample worker, returned when no document yields a node. -/
def fallbackNode : NodeInfo where
  name := .str "sample-worker"
  roles := ["worker"]
  architecture := .str "amd64"
  cpuCapacity := 48
  cpuAllocatable := 47
  topology := ⟨48, 2, 12, 2, 2⟩
  memoryCapacity := .str "128Gi"
  memoryAllocatable := .str "120Gi"
  kernelVersion := .str "4.18.0"
  osImage := .str "Red Hat Enterprise Linux CoreOS"
  labels := .map []

/-- `_parse_nodes`. -/
def parseNodes (bundle : Bundle) : List NodeInfo :=
  match acceptedNodes bundle with
  | [] => [fallbackNode]
  | nodes => nodes

/-! ## `_generate_summary` and `analyze_hardware` -/

/-- A node that carries neither the `master` nor the `control-plane` role. -/
def isWorker (node : NodeInfo) : Bool :=
  !node.roles.contains "master" && !node.roles.contains "control-plane"

/-- The nodes summarised: the workers, or every node when there is no worker. -/
def workerNodesOf (nodes : List NodeInfo) : List NodeInfo :=
  let workers := nodes.filter isWorker
  if workers.isEmpty then nodes else workers

/-- `_generate_summary`; `set()` of the architectures raises on a list or mapping value. -/
def generateSummary (order : SetOrder) (nodes : List NodeInfo) : Except PyError HardwareSummary :=
  if nodes.isEmpty then .ok (.noData "No nodes found")
  else
    let workerNodes := workerNodesOf nodes
    let architectures := workerNodes.map (·.architecture)
    match architectures.find? (!·.hashable) with
    | some unhashable => .error (.typeError ("unhashable type: '" ++ unhashable.typeName ++ "'"))
    | none =>
      let sampleTopology := workerNodes.head?.map (·.topology)
      .ok (.facts
        { totalNodes := nodes.length
          workerNodes := workerNodes.length
          totalCpus := (workerNodes.map (·.cpuCapacity)).sum
          cpusPerNode := (workerNodes.head?.map (·.cpuCapacity)).getD 0
          architectures := order.listing architectures
          numaNodesPerNode := (sampleTopology.map (·.numaNodes)).getD 1
          hyperthreadingEnabled := decide ((sampleTopology.map (·.threadsPerCore)).getD 1 > 1)
          sampleTopology := sampleTopology })

/-- `analyze_hardware`, listing sets in the given order. -/
def analyzeHardware (order : SetOrder) (bundle : Bundle) : Except PyError HardwareInfo := do
  let nodes := parseNodes bundle
  let summary ← generateSummary order nodes
  pure { nodes, summary }

/-- `', '.join(items)` from position `index` on; every item must be a string. -/
def joinFrom (index : Nat) : List Yaml → Except PyError (List String)
  | [] => .ok []
  | .str text :: rest => (text :: ·) <$> joinFrom (index + 1) rest
  | other :: _ => .error (.typeError ("sequence item " ++ toString index ++ ": expected str instance, " ++
      other.typeName ++ " found"))

/-- `get_summary`: the error text of the no-data marker, or the human-readable summary. -/
def getSummary : HardwareSummary → Except PyError String
  | .noData error => .ok error
  | .facts facts => do
    let architectures := String.intercalate ", " (← joinFrom 0 facts.architectures)
    pure ("Cluster Hardware Summary:\n- Total Nodes: " ++ toString facts.totalNodes ++
      "\n- Worker Nodes: " ++ toString facts.workerNodes ++
      "\n- CPUs per Node: " ++ toString facts.cpusPerNode ++
      "\n- Total CPUs: " ++ toString facts.totalCpus ++
      "\n- Architecture: " ++ architectures ++
      "\n- NUMA Nodes per Node: " ++ toString facts.numaNodesPerNode ++
      "\n- Hyperthreading: " ++ (if facts.hyperthreadingEnabled then "enabled" else "disabled") ++ "\n")

end ProfileCreator.MustGatherParser
