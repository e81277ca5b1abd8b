import Mathlib.Algebra.Order.BigOperators.Group.List
import ProfileCreator.MustGather.Summary

/-! # What every parsed summary says

`_extract_node_info` reads `status.capacity.cpu` and `_extract_cpu_topology` reads it again, and
`_generate_summary` takes its NUMA count and hyperthreading flag from the first worker's
topology. Whatever the bundle holds, the summary `analyze_hardware` returns is therefore
constrained (`analyzeHardware_parsedFacts`):

* there is at least one worker, and no more workers than nodes;
* `cpus_per_node` is not negative and at most `total_cpus`;
* `numa_nodes_per_node` is `_estimate_numa_nodes(cpus_per_node)`: it is never read from the
  bundle;
* `hyperthreading_enabled` is always true;
* the architectures list is not empty, so `architectures[0]` never raises on it.

The sample worker of `_parse_nodes_fallback` satisfies the same constraints, although its
topology is not the estimate `_extract_cpu_topology` would make for 48 CPUs.
-/

namespace ProfileCreator.MustGatherParser

open ProfileCreator.Python ProfileCreator.Hardware

/-! ## One node -/

theorem digitCount_nonneg {value : Yaml} {count : Int} (counted : digitCount value = .ok count) : 0 ≤ count := by
  cases value <;> simp only [digitCount, reduceCtorEq] at counted
  split at counted
  · obtain ⟨digits, -, rfl⟩ := map_eq_ok.mp counted
    exact Int.ofNat_nonneg digits
  · cases counted
    exact le_rfl

/-- What the summary reads of a node: a capacity that is not negative, and a topology that counts
that capacity, estimates its NUMA nodes from it and runs two threads per core. -/
structure ParsedNode (node : NodeInfo) : Prop where
  capacityNonneg : 0 ≤ node.cpuCapacity
  totalCounted : node.topology.totalCpus = node.cpuCapacity
  numaEstimated : node.topology.numaNodes = estimateNumaNodes node.cpuCapacity
  twoThreads : node.topology.threadsPerCore = 2

/-- The two reads of `capacity.cpu` agree, so the topology counts the node's capacity. -/
theorem extractNodeInfoBody_parsed {nodeData : Yaml} {info : NodeInfo}
    (returns : extractNodeInfoBody nodeData = .ok info) : ParsedNode info := by
  unfold extractNodeInfoBody at returns
  obtain ⟨_, -, returns⟩ := bind_eq_ok.mp returns
  obtain ⟨status, statusFound, returns⟩ := bind_eq_ok.mp returns
  obtain ⟨capacity, capacityFound, returns⟩ := bind_eq_ok.mp returns
  obtain ⟨_, -, returns⟩ := bind_eq_ok.mp returns
  obtain ⟨cpu, cpuFound, returns⟩ := bind_eq_ok.mp returns
  iterate 8 obtain ⟨_, -, returns⟩ := bind_eq_ok.mp returns
  obtain ⟨topology, estimated, returns⟩ := bind_eq_ok.mp returns
  obtain ⟨_, -, returns⟩ := bind_eq_ok.mp returns
  obtain ⟨capacityCount, counted, returns⟩ := bind_eq_ok.mp returns
  iterate 3 obtain ⟨_, -, returns⟩ := bind_eq_ok.mp returns
  cases returns
  simp only [extractCpuTopology, statusFound, capacityFound, cpuFound, counted, bind, Except.bind, pure, Except.pure,
    Except.ok.injEq] at estimated
  subst estimated
  exact ⟨digitCount_nonneg counted, rfl, rfl, rfl⟩

theorem extractNodeInfo_eq_some {nodeData : Yaml} {node : NodeInfo} (extracted : extractNodeInfo nodeData = some node) :
    extractNodeInfoBody nodeData = .ok node := by
  unfold extractNodeInfo at extracted
  split at extracted
  · rename_i returns
    rw [returns, Option.some.inj extracted]
  · cases extracted

theorem parseNodeFile_eq_some {file : BundleFile} {node : NodeInfo} (parsed : parseNodeFile file = some node) :
    ∃ nodeData, extractNodeInfoBody nodeData = .ok node := by
  unfold parseNodeFile at parsed
  split at parsed
  · split at parsed
    · cases parsed
    · split at parsed
      · exact ⟨_, extractNodeInfo_eq_some parsed⟩
      · cases parsed
  · cases parsed

/-- Every node `_parse_nodes` returns, the sample worker included. -/
theorem parseNodes_parsed {bundle : Bundle} {node : NodeInfo} (member : node ∈ parseNodes bundle) :
    ParsedNode node := by
  unfold parseNodes at member
  split at member
  · rw [List.mem_singleton.mp member]
    exact ⟨by decide, rfl, rfl, rfl⟩
  · obtain ⟨file, -, parsed⟩ := List.mem_filterMap.mp member
    obtain ⟨nodeData, returns⟩ := parseNodeFile_eq_some parsed
    exact extractNodeInfoBody_parsed returns

/-! ## The summary -/

/-- What every summary of parsed nodes says. -/
structure ParsedFacts (facts : SummaryFacts) : Prop where
  workersPresent : 0 < facts.workerNodes
  workersAmongNodes : facts.workerNodes ≤ facts.totalNodes
  cpusNonneg : 0 ≤ facts.cpusPerNode
  cpusWithinTotal : facts.cpusPerNode ≤ facts.totalCpus
  numaEstimated : facts.numaNodesPerNode = estimateNumaNodes facts.cpusPerNode
  hyperthreadingEnabled : facts.hyperthreadingEnabled = true
  architecturesListed : facts.architectures ≠ []

theorem generateSummary_parsedFacts {order : SetOrder} {nodes : List NodeInfo} {summary : HardwareSummary}
    (nonempty : nodes ≠ []) (parsed : ∀ node ∈ nodes, ParsedNode node)
    (returns : generateSummary order nodes = .ok summary) : ∃ facts, summary = .facts facts ∧ ParsedFacts facts := by
  obtain ⟨first, rest, workers⟩ := List.exists_cons_of_ne_nil (workerNodesOf_ne_nil nonempty)
  have workersParsed : ∀ node ∈ first :: rest, ParsedNode node :=
    fun node member => parsed node ((workerNodesOf_sublist nodes).subset (workers ▸ member))
  have firstParsed := workersParsed first (List.mem_cons_self _ _)
  have restNonneg : 0 ≤ (rest.map (·.cpuCapacity)).sum :=
    List.sum_nonneg fun count member => by
      obtain ⟨node, inRest, rfl⟩ := List.mem_map.mp member
      exact (workersParsed node (List.mem_cons_of_mem _ inRest)).capacityNonneg
  have shorter := (workerNodesOf_sublist nodes).length_le
  rw [workers] at shorter
  simp only [generateSummary, List.isEmpty_eq_false.mpr nonempty, workers, Bool.false_eq_true, if_false] at returns
  split at returns
  · cases returns
  · cases returns
    refine ⟨_, rfl, ⟨by simp, shorter, firstParsed.capacityNonneg, ?_, ?_, ?_, order.listing_ne_nil _ _⟩⟩
    · simp only [List.map_cons, List.sum_cons, List.head?_cons, Option.map_some', Option.getD_some]
      omega
    · simp [firstParsed.numaEstimated]
    · simp [firstParsed.twoThreads]

/-- Every summary `analyze_hardware` returns describes parsed nodes: at least one worker, a CPU
count that is not negative and at most the total, a NUMA count estimated from the CPU count,
hyperthreading on, and a non-empty architectures list. -/
theorem analyzeHardware_parsedFacts {order : SetOrder} {bundle : Bundle} {info : HardwareInfo}
    (returns : analyzeHardware order bundle = .ok info) : ∃ facts, info.summary = .facts facts ∧ ParsedFacts facts :=
  generateSummary_parsedFacts (parseNodes_ne_nil bundle) (fun _ => parseNodes_parsed)
    (analyzeHardware_eq_ok.mp returns).2

theorem analyzeHardware_parsedFacts_on_arm_worker :
    ∃ info, analyzeHardware SetOrder.insertion armWorkerBundle = .ok info ∧
      ∃ facts, info.summary = .facts facts ∧ ParsedFacts facts :=
  ⟨_, rfl, @analyzeHardware_parsedFacts SetOrder.insertion armWorkerBundle _ rfl⟩

/-! ## Rendering the summary -/

theorem joinFrom_ok_iff : ∀ (index : Nat) (items : List Yaml),
    (∃ names, joinFrom index items = .ok names) ↔ ∀ item ∈ items, ∃ name, item = .str name
  | _, [] => by simp [joinFrom]
  | index, item :: rest => by
    cases item
    case str name =>
      simp only [joinFrom, map_eq_ok, List.mem_cons, forall_eq_or_imp, Yaml.str.injEq, exists_eq', true_and,
        ← joinFrom_ok_iff (index + 1) rest]
      exact ⟨fun ⟨_, ⟨names, joined, _⟩⟩ => ⟨names, joined⟩, fun ⟨names, joined⟩ => ⟨_, names, joined, rfl⟩⟩
    all_goals simp only [joinFrom, reduceCtorEq, exists_const, List.mem_cons, forall_eq_or_imp, false_and]

/-- `get_summary` renders a summary exactly when every listed architecture is a string: the
`', '.join` raises on any other value. -/
theorem getSummary_facts_ok_iff (facts : SummaryFacts) :
    (∃ text, getSummary (.facts facts) = .ok text) ↔ ∀ architecture ∈ facts.architectures, ∃ name, architecture = .str name := by
  rw [← joinFrom_ok_iff 0]
  simp only [getSummary, bind_eq_ok, pure, Except.pure, Except.ok.injEq, exists_eq', and_true]
  exact ⟨fun ⟨_, names, joined, _⟩ => ⟨names, joined⟩, fun ⟨names, joined⟩ => ⟨_, names, joined, rfl⟩⟩

end ProfileCreator.MustGatherParser
