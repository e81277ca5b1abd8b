import ProfileCreator.MustGather.Parser

/-! # What the hardware summary says about the bundle

`_generate_summary` has a no-data branch, `{"error": "No nodes found"}`, for an empty node list.
`_parse_nodes` never hands it one: when no document yields a node it substitutes the sample
worker of `_parse_nodes_fallback`. So `analyze_hardware` never reports the no-data marker; it
reports the sample worker for a bundle without nodes, and otherwise summarises exactly the nodes
extracted from the bundle's documents.
-/

namespace ProfileCreator.MustGatherParser

open ProfileCreator.Python ProfileCreator.Hardware

/-! ## Helpers -/

theorem workerNodesOf_sublist (nodes : List NodeInfo) : (workerNodesOf nodes).Sublist nodes := by
  simp only [workerNodesOf]
  split
  · exact List.Sublist.refl nodes
  · exact List.filter_sublist nodes

theorem workerNodesOf_ne_nil {nodes : List NodeInfo} (nonempty : nodes ≠ []) : workerNodesOf nodes ≠ [] := by
  simp only [workerNodesOf]
  split <;> simp_all

/-- A summary of a non-empty node list: its facts are read off the first worker node. -/
theorem generateSummary_eq_ok {order : SetOrder} {nodes : List NodeInfo} {summary : HardwareSummary}
    (nonempty : nodes ≠ []) (returns : generateSummary order nodes = .ok summary) :
    ∃ facts, summary = .facts facts ∧ facts.totalNodes = nodes.length ∧
      facts.workerNodes = (workerNodesOf nodes).length ∧
      facts.architectures = order.listing ((workerNodesOf nodes).map (·.architecture)) ∧
      ∃ first ∈ workerNodesOf nodes, facts.cpusPerNode = first.cpuCapacity ∧
        facts.numaNodesPerNode = first.topology.numaNodes ∧
        facts.hyperthreadingEnabled = decide (first.topology.threadsPerCore > 1) ∧
        facts.sampleTopology = some first.topology := by
  obtain ⟨first, rest, workers⟩ := List.exists_cons_of_ne_nil (workerNodesOf_ne_nil nonempty)
  have notEmpty : nodes.isEmpty = false := List.isEmpty_eq_false.mpr nonempty
  simp only [generateSummary, notEmpty, workers, Bool.false_eq_true, if_false] at returns
  split at returns
  · cases returns
  · cases returns
    exact ⟨_, rfl, rfl, by rw [workers], by rw [workers], first, by rw [workers]; exact List.mem_cons_self _ _,
      rfl, rfl, rfl, rfl⟩

/-- `analyze_hardware` returns the parsed nodes and their summary. -/
theorem analyzeHardware_eq_ok {order : SetOrder} {bundle : Bundle} {info : HardwareInfo} :
    analyzeHardware order bundle = .ok info ↔
      info.nodes = parseNodes bundle ∧ generateSummary order (parseNodes bundle) = .ok info.summary := by
  obtain ⟨nodes, summary⟩ := info
  simp only [analyzeHardware, bind, Except.bind, pure, Except.pure]
  cases generateSummary order (parseNodes bundle) <;> simp [eq_comm]

theorem parseNodes_ne_nil (bundle : Bundle) : parseNodes bundle ≠ [] := by
  unfold parseNodes
  split
  · exact List.cons_ne_nil _ _
  · assumption

/-! ## The summary of a bundle -/

/-- The summary of the sample worker. -/
def fallbackFacts : SummaryFacts where
  totalNodes := 1
  workerNodes := 1
  totalCpus := 48
  cpusPerNode := 48
  architectures := [.str "amd64"]
  numaNodesPerNode := 2
  hyperthreadingEnabled := true
  sampleTopology := some ⟨48, 2, 12, 2, 2⟩

/-- A bundle whose documents yield no node is analysed as the sample worker. -/
theorem analyzeHardware_of_no_nodes (order : SetOrder) {bundle : Bundle} (noNodes : acceptedNodes bundle = []) :
    analyzeHardware order bundle = .ok ⟨[fallbackNode], .facts fallbackFacts⟩ := by
  simp only [analyzeHardware, parseNodes, noNodes]
  simp [generateSummary, workerNodesOf, isWorker, fallbackNode, fallbackFacts, bind, Except.bind, pure,
    Except.pure, Yaml.hashable]

/-- The analysis of a bundle whose documents yield nodes summarises those nodes. -/
theorem analyzeHardware_of_nodes {order : SetOrder} {bundle : Bundle} {info : HardwareInfo}
    (returns : analyzeHardware order bundle = .ok info) (found : acceptedNodes bundle ≠ []) :
    info.nodes = acceptedNodes bundle ∧
      ∃ facts, info.summary = .facts facts ∧ facts.totalNodes = (acceptedNodes bundle).length ∧
        facts.workerNodes ≤ facts.totalNodes ∧
        (∃ node ∈ acceptedNodes bundle, facts.cpusPerNode = node.cpuCapacity ∧
          facts.numaNodesPerNode = node.topology.numaNodes ∧
          facts.hyperthreadingEnabled = decide (node.topology.threadsPerCore > 1) ∧
          facts.sampleTopology = some node.topology) ∧
        ∀ architecture ∈ facts.architectures, ∃ node ∈ acceptedNodes bundle, architecture = node.architecture := by
  have parsed : parseNodes bundle = acceptedNodes bundle := by
    unfold parseNodes
    split
    · contradiction
    · rfl
  obtain ⟨nodes, summarised⟩ := analyzeHardware_eq_ok.mp returns
  rw [parsed] at nodes summarised
  obtain ⟨facts, isFacts, total, workers, listed, first, firstWorker, cpus, numa, threads, sample⟩ :=
    generateSummary_eq_ok found summarised
  refine ⟨nodes, facts, isFacts, total, ?_, ⟨first, (workerNodesOf_sublist _).subset firstWorker, cpus, numa, threads, sample⟩, ?_⟩
  · rw [total, workers]
    exact (workerNodesOf_sublist _).length_le
  · intro architecture member
    rw [listed] at member
    obtain ⟨node, worker, rfl⟩ := List.mem_map.mp (order.mem_of_mem_listing member)
    exact ⟨node, (workerNodesOf_sublist _).subset worker, rfl⟩

/-- A bundle without node documents is summarised as the sample worker, not as the no-data
marker: in every set order the summary reports 48 CPUs, two NUMA nodes and an amd64 architecture
that the bundle does not hold. -/
theorem analyzeHardware_empty_bundle :
    acceptedNodes ⟨[]⟩ = [] ∧
      (∀ order, analyzeHardware order ⟨[]⟩ = .ok ⟨[fallbackNode], .facts fallbackFacts⟩) ∧
      fallbackFacts.cpusPerNode = 48 ∧ fallbackFacts.numaNodesPerNode = 2 ∧
      fallbackFacts.architectures = [.str "amd64"] ∧ ∀ error, HardwareSummary.facts fallbackFacts ≠ .noData error :=
  ⟨rfl, fun order => analyzeHardware_of_no_nodes order rfl, rfl, rfl, rfl, fun _ same => by cases same⟩

/-- `analyze_hardware` never reports the no-data marker: a bundle whose documents yield no node
is analysed as the sample worker, and otherwise the summary is made of the extracted nodes. -/
theorem analyzeHardware_summarises_bundle (order : SetOrder) (bundle : Bundle) :
    (acceptedNodes bundle = [] → analyzeHardware order bundle = .ok ⟨[fallbackNode], .facts fallbackFacts⟩) ∧
    ∀ info, analyzeHardware order bundle = .ok info →
      (∀ error, info.summary ≠ .noData error) ∧
      (acceptedNodes bundle ≠ [] →
        info.nodes = acceptedNodes bundle ∧
        ∃ facts, info.summary = .facts facts ∧ facts.totalNodes = (acceptedNodes bundle).length ∧
          facts.workerNodes ≤ facts.totalNodes ∧
          (∃ node ∈ acceptedNodes bundle, facts.cpusPerNode = node.cpuCapacity ∧
            facts.numaNodesPerNode = node.topology.numaNodes ∧
            facts.hyperthreadingEnabled = decide (node.topology.threadsPerCore > 1) ∧
            facts.sampleTopology = some node.topology) ∧
          ∀ architecture ∈ facts.architectures, ∃ node ∈ acceptedNodes bundle, architecture = node.architecture) := by
  refine ⟨analyzeHardware_of_no_nodes order, fun info returns => ⟨fun error noData => ?_,
    analyzeHardware_of_nodes returns⟩⟩
  by_cases found : acceptedNodes bundle = []
  · rw [analyzeHardware_of_no_nodes order found] at returns
    cases returns
    cases noData
  · obtain ⟨-, facts, isFacts, -⟩ := analyzeHardware_of_nodes returns found
    rw [noData] at isFacts
    cases isFacts

/-- A bundle holding one labelled ARM worker document in the standard layout. -/
def armWorkerBundle : Bundle :=
  ⟨[⟨["must-gather.local", "cluster-scoped-resources", "core", "nodes", "worker-0.yaml"],
    some (.map
      [(.str "kind", .str "Node"),
       (.str "metadata", .map
          [(.str "name", .str "worker-0"),
           (.str "labels", .map [(.str "node-role.kubernetes.io/worker", .str "")])]),
       (.str "status", .map
          [(.str "capacity", .map [(.str "cpu", .str "64"), (.str "memory", .str "256Gi")]),
           (.str "allocatable", .map [(.str "cpu", .str "63"), (.str "memory", .str "250Gi")]),
           (.str "nodeInfo", .map
              [(.str "architecture", .str "arm64"), (.str "kernelVersion", .str "5.14.0"),
               (.str "osImage", .str "Red Hat Enterprise Linux CoreOS")])])])⟩]⟩

theorem analyzeHardware_summarises_arm_worker :
    ∃ info, analyzeHardware SetOrder.insertion armWorkerBundle = .ok info ∧
      info.summary.cpusPerNode? = some 64 ∧ info.summary.numaNodesPerNode? = some 4 ∧
      (∀ error, info.summary ≠ .noData error) ∧ info.nodes = acceptedNodes armWorkerBundle :=
  ⟨_, rfl, rfl, rfl, ((analyzeHardware_summarises_bundle SetOrder.insertion armWorkerBundle).2 _ rfl).1,
    (((analyzeHardware_summarises_bundle SetOrder.insertion armWorkerBundle).2 _ rfl).2
      (fun found => by cases found)).1⟩

end ProfileCreator.MustGatherParser
