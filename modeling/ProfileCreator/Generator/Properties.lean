import ProfileCreator.Generator.Resolution
import ProfileCreator.MustGather.Summary

/-! # What `generate_parameters` guarantees

The merge is described key by key: a key of the merged map holds its non-`None` override, else
what the seeding gave it (`find?_mergeParameters`). With the frame of `_adjust_parameters` this
gives

* `generateParameters_synthesized` — with overrides of the option types, synthesis returns
  exactly when the reserved count is overridden or the heuristic returns (`SizingReturns`: the
  node count is zero, the workload sizes by NUMA nodes, or the count converts to a float), and
  the map it returns names the profile, sizes the reserved CPUs with an int, sets every core
  option with its type, and has no conflict left;
* `generateParameters_overrides_prevail` — overrides win over the seed, except where a conflict
  rule rewrites a key, and no key comes from anywhere else;
* `calculateReservedCpus_bounds` — the clamp of the reserved-CPU heuristic, which on nodes of
  fewer than three CPUs reserves the whole node or more;
* `calculateReservedCpus_ok_iff` — the heuristic raises only where Python's float of the node
  count overflows;
* `calculateReservedCpus_monotone` — the heuristic never reserves fewer CPUs on a larger node;
* `generateParameters_keeps_template_options` — no conflict rule fires on a catalog
  `default_config`, so without overrides of the core options a catalog template's options come
  out as the catalog has them wherever synthesis returns.

Concrete calls use the summary of the sample worker (`fallbackFacts`).
-/

namespace ProfileCreator.PPCCommandGenerator

open ProfileCreator.Python ProfileCreator.Hardware ProfileCreator.WorkloadTemplates
  ProfileCreator.MustGatherParser

/-! ## The override loop -/

theorem applyOverrides_cons (params : PyDict) (name : String) (value : PyValue)
    (rest : List (String × PyValue)) :
    applyOverrides params ((name, value) :: rest) =
      applyOverrides (if value = .none then params else params.set name value) rest := rfl

/-- After the loop a key holds its non-`None` override, or what it held before. -/
theorem find?_applyOverrides (params : PyDict) {entries : List (String × PyValue)}
    (distinct : (entries.map Prod.fst).Nodup) (key : String) :
    (applyOverrides params entries).find? key = (nonNone (entries.lookup key)).or (params.find? key) := by
  induction entries generalizing params with
  | nil => rfl
  | cons entry rest inductionHypothesis =>
    obtain ⟨name, value⟩ := entry
    obtain ⟨fresh, restDistinct⟩ := List.nodup_cons.mp distinct
    rw [applyOverrides_cons, inductionHypothesis _ restDistinct, PyDict.lookup_cons_eq]
    by_cases same : key = name
    · subst same
      have absent : rest.lookup key = none := List.lookup_eq_none_iff.mpr fun other member => by
        have differs : key ≠ other.1 := by
          rintro rfl
          exact fresh (List.mem_map.mpr ⟨other, member, rfl⟩)
        simpa using differs
      by_cases unset : value = .none <;> simp [absent, unset, nonNone]
    · by_cases unset : value = .none <;> simp [same, unset]

/-! ## The seed and the merge -/

theorem seedOf_toDict (template : Option WorkloadTemplate) : ∃ config : CoreConfig, seedOf template = config.toDict := by
  cases template <;> exact ⟨_, rfl⟩

theorem mem_keys_seedOf (template : Option WorkloadTemplate) (key : String) :
    key ∈ (seedOf template).keys ↔ key ∈ boolOptions ∨ key ∈ strOptions := by
  obtain ⟨config, seed⟩ := seedOf_toDict template
  rw [seed, mem_keys_toDict]

/-- The seed sets none of the keys `generate_parameters` sets itself. -/
theorem find?_seedOf_of_named (template : Option WorkloadTemplate) {name : String}
    (named : name ∈ ["mcp_name", "profile_name", "reserved_cpu_count"]) : (seedOf template).find? name = none := by
  obtain ⟨config, seed⟩ := seedOf_toDict template
  simp only [List.mem_cons, List.not_mem_nil, or_false] at named
  rcases named with rfl | rfl | rfl <;> simp [seed, find?_toDict]

theorem Overrides.value?_of_named (overrides : Overrides) {name : String}
    (named : name ∈ ["self", "workload_type", "mcp_name", "profile_name", "template"]) :
    overrides.value? name = none := by
  simp [Overrides.value?, overrides.unnamed name named, nonNone]

section Merge

variable {summary : HardwareSummary} {workloadType mcpName profileName : String}
  {template : Option WorkloadTemplate} {overrides : Overrides}

/-- The seeding, with the seed's lack of a reserved count used: the heuristic runs exactly when no
override fixes the count. -/
theorem seededParameters_eq :
    seededParameters summary workloadType mcpName profileName template overrides =
      if (overrides.value? "reserved_cpu_count").isNone then
        (fun reserved => (((seedOf template).set "mcp_name" (.str mcpName)).set "profile_name"
          (.str profileName)).set "reserved_cpu_count" (.int reserved)) <$> calculateReservedCpus summary workloadType
      else .ok (((seedOf template).set "mcp_name" (.str mcpName)).set "profile_name" (.str profileName)) := by
  have unsized : (seedOf template).find? "reserved_cpu_count" = none := find?_seedOf_of_named template (by simp)
  simp only [seededParameters, PyDict.contains_eq, PyDict.find?_set, String.reduceEq, if_false, unsized,
    Option.isSome_none, Bool.not_false, and_true, bind_pure_comp]
  rfl

/-- The seeding names the map and sizes the reserved CPUs with what the heuristic returned, when
no override fixes them. -/
theorem find?_seededParameters {seeded : PyDict}
    (returns : seededParameters summary workloadType mcpName profileName template overrides = .ok seeded)
    (key : String) :
    seeded.find? key =
      if key = "reserved_cpu_count" then
        if (overrides.value? key).isNone then PyValue.int <$> (calculateReservedCpus summary workloadType).toOption
        else none
      else if key = "profile_name" then some (.str profileName)
      else if key = "mcp_name" then some (.str mcpName)
      else (seedOf template).find? key := by
  have unsized : (seedOf template).find? "reserved_cpu_count" = none := find?_seedOf_of_named template (by simp)
  rw [seededParameters_eq] at returns
  split at returns <;> rename_i given
  · obtain ⟨reserved, sized, rfl⟩ := map_eq_ok.mp returns
    by_cases same : key = "reserved_cpu_count" <;> simp [same, given, sized, Except.toOption]
  · cases returns
    by_cases same : key = "reserved_cpu_count" <;> simp [same, given, unsized]

theorem mergeParameters_eq_ok {merged : PyDict} :
    mergeParameters summary workloadType mcpName profileName template overrides = .ok merged ↔
      ∃ seeded, seededParameters summary workloadType mcpName profileName template overrides = .ok seeded ∧
        applyOverrides seeded overrides.dict.entries = merged := by
  simp only [mergeParameters, bind_eq_ok, pure, Except.pure, Except.ok.injEq]

theorem generateParameters_eq_ok {params : PyDict} :
    generateParameters summary workloadType mcpName profileName template overrides = .ok params ↔
      ∃ merged, mergeParameters summary workloadType mcpName profileName template overrides = .ok merged ∧
        adjustParameters summary merged = .ok params :=
  bind_eq_ok

/-- A key of the merged map holds its non-`None` override, else what the seeding gave it. -/
theorem find?_mergeParameters {merged : PyDict}
    (returns : mergeParameters summary workloadType mcpName profileName template overrides = .ok merged) (key : String) :
    merged.find? key = (overrides.value? key).or
      (if key = "reserved_cpu_count" then PyValue.int <$> (calculateReservedCpus summary workloadType).toOption
      else if key = "profile_name" then some (.str profileName)
      else if key = "mcp_name" then some (.str mcpName)
      else (seedOf template).find? key) := by
  obtain ⟨seeded, seeding, rfl⟩ := mergeParameters_eq_ok.mp returns
  rw [find?_applyOverrides _ overrides.dict.keys_nodup, find?_seededParameters seeding]
  change (overrides.value? key).or _ = _
  cases given : overrides.value? key with
  | some value => rfl
  | none => simp

/-- A key of the seed holds its non-`None` override, or the seed's value. -/
theorem find?_mergeParameters_of_seed {merged : PyDict}
    (returns : mergeParameters summary workloadType mcpName profileName template overrides = .ok merged) {key : String}
    (member : key ∈ (seedOf template).keys) :
    merged.find? key = (overrides.value? key).or ((seedOf template).find? key) := by
  have unnamed : ∀ name ∈ ["mcp_name", "profile_name", "reserved_cpu_count"], key ≠ name := by
    rintro name named rfl
    rw [PyDict.mem_keys_iff, find?_seedOf_of_named template named] at member
    cases member
  rw [find?_mergeParameters returns, if_neg (unnamed _ (by simp)), if_neg (unnamed _ (by simp)),
    if_neg (unnamed _ (by simp))]

theorem find?_mergeParameters_mcpName {merged : PyDict}
    (returns : mergeParameters summary workloadType mcpName profileName template overrides = .ok merged) :
    merged.find? "mcp_name" = some (.str mcpName) := by
  rw [find?_mergeParameters returns, overrides.value?_of_named (by simp)]
  rfl

theorem find?_mergeParameters_profileName {merged : PyDict}
    (returns : mergeParameters summary workloadType mcpName profileName template overrides = .ok merged) :
    merged.find? "profile_name" = some (.str profileName) := by
  rw [find?_mergeParameters returns, overrides.value?_of_named (by simp)]
  rfl

/-- The reserved count is the non-`None` override, else the count the heuristic returned. -/
theorem find?_mergeParameters_reserved {merged : PyDict}
    (returns : mergeParameters summary workloadType mcpName profileName template overrides = .ok merged) :
    merged.find? "reserved_cpu_count" =
      (overrides.value? "reserved_cpu_count").or (PyValue.int <$> (calculateReservedCpus summary workloadType).toOption) := by
  rw [find?_mergeParameters returns, if_pos rfl]

/-- The merge returns exactly when the reserved count is overridden or the heuristic returns. -/
theorem mergeParameters_ok_iff :
    (∃ merged, mergeParameters summary workloadType mcpName profileName template overrides = .ok merged) ↔
      (overrides.value? "reserved_cpu_count").isSome ∨ ∃ count, calculateReservedCpus summary workloadType = .ok count := by
  have unsized : (seedOf template).find? "reserved_cpu_count" = none := find?_seedOf_of_named template (by simp)
  simp only [mergeParameters, seededParameters, PyDict.contains_eq, PyDict.find?_set, String.reduceEq, if_false, unsized,
    Option.isSome_none, Bool.not_false, and_true]
  cases overrides.value? "reserved_cpu_count" <;> cases calculateReservedCpus summary workloadType <;>
    simp [bind, Except.bind, pure, Except.pure]

/-- The merge adds no key besides the seed's, the overrides' and the three it sets itself. -/
theorem mem_keys_mergeParameters {merged : PyDict}
    (returns : mergeParameters summary workloadType mcpName profileName template overrides = .ok merged) {key : String}
    (member : key ∈ merged.keys) :
    key ∈ (seedOf template).keys ∨ key ∈ overrides.dict.keys ∨ key ∈ ["mcp_name", "profile_name", "reserved_cpu_count"] := by
  rw [PyDict.mem_keys_iff, find?_mergeParameters returns] at member
  rw [PyDict.mem_keys_iff, PyDict.mem_keys_iff]
  cases overriding : overrides.dict.find? key with
  | some value => exact .inr (.inl rfl)
  | none =>
    simp only [Overrides.value?, overriding, nonNone, Option.none_or] at member
    split_ifs at member <;> simp_all

theorem or_some_eq_getD (override : Option PyValue) (fallback : PyValue) :
    override.or (some fallback) = some (override.getD fallback) := by
  cases override <;> rfl

/-- An override that passed its option's type test, or else the fallback, is of the option's type. -/
theorem exists_getD_of_all {α : Type} {wrap : α → PyValue} {test : PyValue → Bool}
    (kind : ∀ value, test value = true ↔ ∃ a, value = wrap a) {override : Option PyValue}
    (given : override.all test = true) (fallback : α) : ∃ a, some (override.getD (wrap fallback)) = some (wrap a) := by
  cases override with
  | none => exact ⟨fallback, rfl⟩
  | some value =>
    obtain ⟨a, rfl⟩ := (kind value).mp given
    exact ⟨a, rfl⟩

/-- The keyword arguments carry the option types: each core option and the reserved count is
absent, `None`, or of its option's type. -/
def Overrides.WellTyped (overrides : Overrides) : Prop :=
  (∀ option ∈ boolOptions, (overrides.value? option).all PyValue.isBool) ∧
    (∀ option ∈ strOptions, (overrides.value? option).all PyValue.isStr) ∧
    (overrides.value? "reserved_cpu_count").all PyValue.isInt

instance (overrides : Overrides) : Decidable overrides.WellTyped := inferInstanceAs (Decidable (_ ∧ _ ∧ _))

/-- An option the seed sets with a type, and whose override, if any, has that type, has it after
the merge. -/
theorem exists_find?_mergeParameters {α : Type} {wrap : α → PyValue} {test : PyValue → Bool}
    (kind : ∀ value, test value = true ↔ ∃ a, value = wrap a) {merged : PyDict}
    (returns : mergeParameters summary workloadType mcpName profileName template overrides = .ok merged) {option : String}
    {seeded : α} (inSeed : (seedOf template).find? option = some (wrap seeded))
    (given : (overrides.value? option).all test = true) : ∃ a, merged.find? option = some (wrap a) := by
  have member : option ∈ (seedOf template).keys := (PyDict.mem_keys_iff _ _).mpr (by rw [inSeed]; rfl)
  rw [find?_mergeParameters_of_seed returns member, inSeed, or_some_eq_getD]
  exact exists_getD_of_all kind given seeded

theorem mergeParameters_optionTyped (typed : overrides.WellTyped) {merged : PyDict}
    (returns : mergeParameters summary workloadType mcpName profileName template overrides = .ok merged) :
    OptionTyped merged := by
  obtain ⟨config, seed⟩ := seedOf_toDict template
  constructor
  · intro option member
    obtain ⟨flag, value⟩ := config.toDict_optionTyped.bools option member
    exact exists_find?_mergeParameters PyValue.isBool_iff returns (seed ▸ value) (typed.1 option member)
  · intro option member
    obtain ⟨text, value⟩ := config.toDict_optionTyped.strs option member
    exact exists_find?_mergeParameters PyValue.isStr_iff returns (seed ▸ value) (typed.2.1 option member)

end Merge

/-! ## The reserved-CPU heuristic -/

/-- The workloads whose reserve the heuristic sizes by NUMA node, with no float arithmetic. -/
def latencyWorkloads : List String := ["5g-ran", "telco-vnf", "ai-inference"]

/-- The heuristic in two branches: the NUMA-based count for the latency-sensitive workloads, the
tenth of the node for the others, each clamped. -/
theorem calculateReservedCpus_eq (summary : HardwareSummary) (workloadType : String) :
    calculateReservedCpus summary workloadType =
      if summary.cpusPerNode?.getD 0 = 0 then .ok 4
      else (fun reserved => max 2 (min reserved (summary.cpusPerNode?.getD 0 / 4))) <$>
        if workloadType ∈ latencyWorkloads then .ok (max 2 (summary.numaNodesPerNode?.getD 1 * 2))
        else max 4 <$> intTimesTenth (summary.cpusPerNode?.getD 0) := by
  by_cases unknown : summary.cpusPerNode?.getD 0 = 0
  · simp only [calculateReservedCpus, unknown, if_true]
  simp only [calculateReservedCpus, unknown, if_false, bind_pure_comp, latencyWorkloads, List.mem_cons,
    List.not_mem_nil, or_false]
  by_cases ran : workloadType = "5g-ran"
  · simp only [ran, true_or, if_true]
    rfl
  by_cases vnf : workloadType = "telco-vnf"
  · simp only [vnf, true_or, or_true, if_true]
    rfl
  by_cases inference : workloadType = "ai-inference"
  · simp (disch := decide) only [inference, or_true, if_true, if_false, String.reduceEq]
    rfl
  simp only [ran, vnf, inference, or_self, if_false]
  split_ifs <;> rfl

/-- A count the heuristic returns for a node of known size is clamped by `max(2, min(·, c // 4))`. -/
theorem calculateReservedCpus_clamped {summary : HardwareSummary} {workloadType : String} {reserved : Int}
    (known : summary.cpusPerNode?.getD 0 ≠ 0) (returns : calculateReservedCpus summary workloadType = .ok reserved) :
    ∃ unclamped, reserved = max 2 (min unclamped (summary.cpusPerNode?.getD 0 / 4)) := by
  rw [calculateReservedCpus_eq, if_neg known] at returns
  obtain ⟨unclamped, -, rfl⟩ := map_eq_ok.mp returns
  exact ⟨unclamped, rfl⟩

/-- The heuristic returns: nothing to size, a latency-sensitive workload, or a node count a double
holds. -/
def SizingReturns (summary : HardwareSummary) (workloadType : String) : Prop :=
  summary.cpusPerNode?.getD 0 = 0 ∨ workloadType ∈ latencyWorkloads ∨ intFitsFloat (summary.cpusPerNode?.getD 0) = true

instance (summary : HardwareSummary) (workloadType : String) : Decidable (SizingReturns summary workloadType) :=
  inferInstanceAs (Decidable (_ ∨ _ ∨ _))

/-- The heuristic raises only where it takes the tenth of a node count beyond a double's range. -/
theorem calculateReservedCpus_ok_iff (summary : HardwareSummary) (workloadType : String) :
    (∃ reserved, calculateReservedCpus summary workloadType = .ok reserved) ↔ SizingReturns summary workloadType := by
  rw [calculateReservedCpus_eq, SizingReturns]
  by_cases known : summary.cpusPerNode?.getD 0 = 0
  · simp only [known, if_true, true_or, iff_true]
    exact ⟨4, rfl⟩
  · by_cases latency : workloadType ∈ latencyWorkloads
    · simp only [known, latency, if_true, if_false, true_or, or_true, iff_true]
      exact ⟨_, rfl⟩
    · simp only [known, latency, if_false, false_or, map_eq_ok]
      constructor
      · rintro ⟨_, _, ⟨tenth, ticked, -⟩, -⟩
        exact ((intTimesTenth_eq_ok_iff _ _).mp ticked).1
      · intro fits
        exact ⟨_, _, ⟨_, (intTimesTenth_eq_ok_iff _ _).mpr ⟨fits, rfl⟩, rfl⟩, rfl⟩

/-- Where the heuristic does not return it raises the OverflowError of the float conversion. -/
theorem calculateReservedCpus_overflows {summary : HardwareSummary} {workloadType : String}
    (unsized : ¬SizingReturns summary workloadType) :
    calculateReservedCpus summary workloadType = .error (.overflowError "int too large to convert to float") := by
  simp only [SizingReturns, not_or, Bool.not_eq_true] at unsized
  obtain ⟨known, latency, overflows⟩ := unsized
  simp only [calculateReservedCpus_eq, known, latency, intTimesTenth, overflows, if_false, Bool.false_eq_true]
  rfl

/-- On a node of at least one CPU a count the heuristic returns is at least two, at most a quarter
of a node of eight or more, exactly two on a smaller node, and leaves a CPU to isolate exactly when
the node has three or more. -/
theorem calculateReservedCpus_bounds (summary : HardwareSummary) (workloadType : String)
    (positive : 1 ≤ summary.cpusPerNode?.getD 0) {reserved : Int}
    (returns : calculateReservedCpus summary workloadType = .ok reserved) :
    2 ≤ reserved ∧ (8 ≤ summary.cpusPerNode?.getD 0 → reserved ≤ summary.cpusPerNode?.getD 0 / 4) ∧
      (summary.cpusPerNode?.getD 0 < 8 → reserved = 2) ∧ (reserved < summary.cpusPerNode?.getD 0 ↔ 3 ≤ summary.cpusPerNode?.getD 0) := by
  obtain ⟨unclamped, rfl⟩ := calculateReservedCpus_clamped (by omega) returns
  omega

theorem calculateReservedCpus_bounds_on_sample :
    1 ≤ (HardwareSummary.facts fallbackFacts).cpusPerNode?.getD 0 ∧
      calculateReservedCpus (.facts fallbackFacts) "database" = .ok 4 ∧
      2 ≤ (4 : Int) ∧ (8 ≤ (48 : Int) → (4 : Int) ≤ 48 / 4) ∧ ((48 : Int) < 8 → (4 : Int) = 2) ∧
        ((4 : Int) < 48 ↔ 3 ≤ (48 : Int)) :=
  ⟨by decide, by decide, calculateReservedCpus_bounds (.facts fallbackFacts) "database" (by decide) (by decide)⟩

/-- The truncated tenth grows with the node. -/
theorem intTimesTenth_mono {smaller larger fewer more : Int} (positive : 1 ≤ smaller) (grows : smaller ≤ larger)
    (first : intTimesTenth smaller = .ok fewer) (second : intTimesTenth larger = .ok more) : fewer ≤ more := by
  obtain ⟨-, rfl⟩ := (intTimesTenth_eq_ok_iff _ _).mp first
  obtain ⟨-, rfl⟩ := (intTimesTenth_eq_ok_iff _ _).mp second
  rw [Int.sign_eq_one_of_pos (by omega), Int.sign_eq_one_of_pos (by omega), Int.one_mul, Int.one_mul, Int.ofNat_le]
  exact truncatedTenth_mono (by omega)

/-- The heuristic reserves no fewer CPUs on a larger node of the same NUMA layout: both the
latency-sensitive count and the truncated tenth of the node grow with the node, and so does the
clamp. -/
theorem calculateReservedCpus_monotone (workloadType : String) {smaller larger : HardwareSummary}
    (sameNuma : smaller.numaNodesPerNode?.getD 1 = larger.numaNodesPerNode?.getD 1)
    (positive : 1 ≤ smaller.cpusPerNode?.getD 0)
    (grows : smaller.cpusPerNode?.getD 0 ≤ larger.cpusPerNode?.getD 0) {fewer more : Int}
    (smallerReturns : calculateReservedCpus smaller workloadType = .ok fewer)
    (largerReturns : calculateReservedCpus larger workloadType = .ok more) : fewer ≤ more := by
  have quarters := Int.ediv_le_ediv (by decide : (0 : Int) < 4) grows
  rw [calculateReservedCpus_eq, if_neg (by omega)] at smallerReturns largerReturns
  obtain ⟨smallerUnclamped, smallerSized, rfl⟩ := map_eq_ok.mp smallerReturns
  obtain ⟨largerUnclamped, largerSized, rfl⟩ := map_eq_ok.mp largerReturns
  have unclamped : smallerUnclamped ≤ largerUnclamped := by
    split_ifs at smallerSized largerSized
    · rw [← Except.ok.inj smallerSized, ← Except.ok.inj largerSized, sameNuma]
    · obtain ⟨fewerTenth, smallerTenth, rfl⟩ := map_eq_ok.mp smallerSized
      obtain ⟨moreTenth, largerTenth, rfl⟩ := map_eq_ok.mp largerSized
      exact max_le_max le_rfl (intTimesTenth_mono positive grows smallerTenth largerTenth)
  omega

theorem calculateReservedCpus_monotone_on_sample :
    (HardwareSummary.facts { fallbackFacts with cpusPerNode := 8 }).numaNodesPerNode?.getD 1 =
        (HardwareSummary.facts fallbackFacts).numaNodesPerNode?.getD 1 ∧
      1 ≤ (HardwareSummary.facts { fallbackFacts with cpusPerNode := 8 }).cpusPerNode?.getD 0 ∧
      (HardwareSummary.facts { fallbackFacts with cpusPerNode := 8 }).cpusPerNode?.getD 0 ≤
        (HardwareSummary.facts fallbackFacts).cpusPerNode?.getD 0 ∧
      calculateReservedCpus (.facts { fallbackFacts with cpusPerNode := 8 }) "database" = .ok 2 ∧
      calculateReservedCpus (.facts fallbackFacts) "database" = .ok 4 ∧ (2 : Int) ≤ 4 :=
  ⟨rfl, by decide, by decide, by decide, by decide,
    @calculateReservedCpus_monotone "database" (.facts { fallbackFacts with cpusPerNode := 8 }) (.facts fallbackFacts) rfl
      (by decide) (by decide) 2 4 (by decide) (by decide)⟩

/-- The summary of a worker with two CPUs on one NUMA node. -/
def twoCpuFacts : SummaryFacts := ⟨1, 1, 2, 2, [.str "amd64"], 1, false, some ⟨2, 1, 2, 1, 1⟩⟩

/-- On a two-CPU node the heuristic reserves both CPUs, leaving none to isolate. -/
theorem calculateReservedCpus_reserves_two_cpu_node :
    (HardwareSummary.facts twoCpuFacts).cpusPerNode?.getD 0 = 2 ∧
      (HardwareSummary.facts twoCpuFacts).numaNodesPerNode?.getD 1 = 1 ∧
      calculateReservedCpus (.facts twoCpuFacts) "5g-ran" = .ok 2 := by
  decide

/-! ## The synthesis postcondition -/

/-- What `generate_parameters` promises the command assembler: both names, an int reserved count,
every core option with its type, and no conflict left. -/
structure Synthesized (summary : HardwareSummary) (mcpName profileName : String) (params : PyDict) : Prop where
  mcpNamed : params.find? "mcp_name" = some (.str mcpName)
  profileNamed : params.find? "profile_name" = some (.str profileName)
  reservedCount : ∃ count, params.find? "reserved_cpu_count" = some (.int count)
  optionsTyped : OptionTyped params
  conflictFree : ConflictFree summary params

theorem exists_reserved_mergeParameters {summary : HardwareSummary} {workloadType mcpName profileName : String}
    {template : Option WorkloadTemplate} {overrides : Overrides} (typed : overrides.WellTyped) {merged : PyDict}
    (returns : mergeParameters summary workloadType mcpName profileName template overrides = .ok merged) :
    ∃ count : Int, merged.find? "reserved_cpu_count" = some (.int count) := by
  rw [find?_mergeParameters_reserved returns]
  cases given : overrides.value? "reserved_cpu_count" with
  | some value =>
    have isInt := typed.2.2
    rw [given, Option.all_some, PyValue.isInt_iff] at isInt
    obtain ⟨count, rfl⟩ := isInt
    exact ⟨count, rfl⟩
  | none =>
    obtain ⟨count, sized⟩ := (mergeParameters_ok_iff.mp ⟨merged, returns⟩).resolve_left (by simp [given])
    exact ⟨count, by rw [sized]; rfl⟩

/-- A map `generate_parameters` returns for overrides of the option types is synthesized. -/
theorem synthesized_of_generateParameters {summary : HardwareSummary} {workloadType mcpName profileName : String}
    {template : Option WorkloadTemplate} {overrides : Overrides} {params : PyDict} (typed : overrides.WellTyped)
    (returns : generateParameters summary workloadType mcpName profileName template overrides = .ok params) :
    Synthesized summary mcpName profileName params := by
  obtain ⟨merged, merging, adjusting⟩ := generateParameters_eq_ok.mp returns
  obtain ⟨count, sized⟩ := exists_reserved_mergeParameters typed merging
  have unwritten : ∀ name ∈ ["mcp_name", "profile_name", "reserved_cpu_count"], params.find? name = merged.find? name := by
    intro name named
    refine find?_adjustParameters_of_quiet adjusting fun fires => ?_
    simp only [List.mem_cons, List.not_mem_nil, or_false] at named
    rcases named with rfl | rfl | rfl <;> simp [RuleFires] at fires
  exact
    { mcpNamed := by rw [unwritten _ (by simp), find?_mergeParameters_mcpName merging]
      profileNamed := by rw [unwritten _ (by simp), find?_mergeParameters_profileName merging]
      reservedCount := ⟨count, by rw [unwritten _ (by simp), sized]⟩
      optionsTyped := adjustParameters_optionTyped adjusting (mergeParameters_optionTyped typed merging)
      conflictFree := adjustParameters_conflictFree adjusting }

/-- A map `generate_parameters` returns comes from a reserved override or a heuristic that
returned. -/
theorem sizes_of_generateParameters {summary : HardwareSummary} {workloadType mcpName profileName : String}
    {template : Option WorkloadTemplate} {overrides : Overrides} {params : PyDict}
    (returns : generateParameters summary workloadType mcpName profileName template overrides = .ok params) :
    (overrides.value? "reserved_cpu_count").isSome ∨ SizingReturns summary workloadType := by
  obtain ⟨merged, merging, -⟩ := generateParameters_eq_ok.mp returns
  rw [← calculateReservedCpus_ok_iff]
  exact mergeParameters_ok_iff.mp ⟨merged, merging⟩

/-- With overrides of the option types, `generate_parameters` returns exactly when the reserved
count is overridden or the heuristic returns. -/
theorem generateParameters_ok_iff (summary : HardwareSummary) (workloadType mcpName profileName : String)
    (template : Option WorkloadTemplate) {overrides : Overrides} (typed : overrides.WellTyped) :
    (∃ params, generateParameters summary workloadType mcpName profileName template overrides = .ok params) ↔
      (overrides.value? "reserved_cpu_count").isSome ∨ SizingReturns summary workloadType := by
  refine ⟨fun ⟨params, returns⟩ => sizes_of_generateParameters returns, fun sizes => ?_⟩
  rw [← calculateReservedCpus_ok_iff, ← mergeParameters_ok_iff] at sizes
  obtain ⟨merged, merging⟩ := sizes
  obtain ⟨count, sized⟩ := exists_reserved_mergeParameters typed merging
  obtain ⟨params, adjusting⟩ := adjustParameters_of_int summary sized
  exact ⟨params, generateParameters_eq_ok.mpr ⟨merged, merging, adjusting⟩⟩

/-- Without a reserved override, a summary the heuristic cannot size makes `generate_parameters`
raise the heuristic's OverflowError. -/
theorem generateParameters_overflows {summary : HardwareSummary} {workloadType : String} (mcpName profileName : String)
    (template : Option WorkloadTemplate) {overrides : Overrides}
    (unset : overrides.value? "reserved_cpu_count" = none) (unsized : ¬SizingReturns summary workloadType) :
    generateParameters summary workloadType mcpName profileName template overrides =
      .error (.overflowError "int too large to convert to float") := by
  simp only [generateParameters, mergeParameters, seededParameters_eq, unset, Option.isNone_none, if_true,
    calculateReservedCpus_overflows unsized]
  rfl

/-- With overrides of the option types, `generate_parameters` returns exactly when the reserved
count is overridden or the heuristic returns, and every map it returns is synthesized. -/
theorem generateParameters_synthesized (summary : HardwareSummary) (workloadType mcpName profileName : String)
    (template : Option WorkloadTemplate) {overrides : Overrides} (typed : overrides.WellTyped) :
    ((∃ params, generateParameters summary workloadType mcpName profileName template overrides = .ok params) ↔
        (overrides.value? "reserved_cpu_count").isSome ∨ SizingReturns summary workloadType) ∧
      ∀ params, generateParameters summary workloadType mcpName profileName template overrides = .ok params →
        Synthesized summary mcpName profileName params :=
  ⟨generateParameters_ok_iff summary workloadType mcpName profileName template typed,
    fun _ => synthesized_of_generateParameters typed⟩

/-- The keyword arguments of a call that asks for per-pod power management and leaves the reserved
count to the heuristic. -/
def perPodOverrides : Overrides :=
  ⟨PyDict.ofList [("reserved_cpu_count", .none), ("per_pod_power_management", .bool true)], by decide⟩

theorem generateParameters_synthesized_on_sample :
    perPodOverrides.WellTyped ∧
      ((∃ params, generateParameters (.facts fallbackFacts) "database" "worker-cnf" "performance" (getTemplate "database")
          perPodOverrides = .ok params) ↔
        (perPodOverrides.value? "reserved_cpu_count").isSome ∨ SizingReturns (.facts fallbackFacts) "database") ∧
      ∀ params, generateParameters (.facts fallbackFacts) "database" "worker-cnf" "performance" (getTemplate "database")
          perPodOverrides = .ok params → Synthesized (.facts fallbackFacts) "worker-cnf" "performance" params :=
  ⟨by decide, generateParameters_synthesized _ _ _ _ _ (by decide)⟩

/-- A node count past a double's range: the tenth of the database heuristic overflows. -/
theorem generateParameters_raises_on_huge_node :
    generateParameters (.facts { fallbackFacts with cpusPerNode := floatOverflowBound }) "database" "worker-cnf"
        "performance" (getTemplate "database") perPodOverrides =
      .error (.overflowError "int too large to convert to float") := by
  decide

/-! ## Override precedence -/

/-- Override precedence against the merged map `merged`: a non-`None` override lands verbatim and
an unoverridden seed key keeps the seed's value, except where a conflict rule fires on the merged
map; the reserved count is the override, or else the count the heuristic returned; and no key
comes from anywhere else. -/
structure OverridesPrevail (summary : HardwareSummary) (workloadType : String) (template : Option WorkloadTemplate)
    (overrides : Overrides) (merged params : PyDict) : Prop where
  overridden : ∀ key value, overrides.value? key = some value → ¬RuleFires summary merged key →
    params.find? key = some value
  seeded : ∀ key ∈ (seedOf template).keys, overrides.value? key = none → ¬RuleFires summary merged key →
    params.find? key = (seedOf template).find? key
  reserved : (∀ value, overrides.value? "reserved_cpu_count" = some value →
      params.find? "reserved_cpu_count" = some value) ∧
    (overrides.value? "reserved_cpu_count" = none →
      ∃ count, calculateReservedCpus summary workloadType = .ok count ∧
        params.find? "reserved_cpu_count" = some (.int count))
  onlyKnownKeys : ∀ key ∈ params.keys, key ∈ (seedOf template).keys ∨ key ∈ overrides.dict.keys ∨
    key ∈ ["mcp_name", "profile_name", "reserved_cpu_count"]

theorem generateParameters_overrides_prevail {summary : HardwareSummary} {workloadType mcpName profileName : String}
    {template : Option WorkloadTemplate} {overrides : Overrides} {params : PyDict}
    (returns : generateParameters summary workloadType mcpName profileName template overrides = .ok params) :
    ∃ merged, mergeParameters summary workloadType mcpName profileName template overrides = .ok merged ∧
      OverridesPrevail summary workloadType template overrides merged params := by
  obtain ⟨merged, merging, adjusting⟩ := generateParameters_eq_ok.mp returns
  have reservedKept : params.find? "reserved_cpu_count" = merged.find? "reserved_cpu_count" :=
    find?_adjustParameters_of_quiet adjusting (by simp [RuleFires])
  refine ⟨merged, merging, ⟨fun key value given quiet => ?_, fun key member absent quiet => ?_, ⟨fun value given => ?_,
    fun absent => ?_⟩, fun key member => ?_⟩⟩
  · rw [find?_adjustParameters_of_quiet adjusting quiet, find?_mergeParameters merging, given]
    rfl
  · rw [find?_adjustParameters_of_quiet adjusting quiet, find?_mergeParameters_of_seed merging member, absent]
    rfl
  · rw [reservedKept, find?_mergeParameters_reserved merging, given]
    rfl
  · obtain ⟨count, sized⟩ := (mergeParameters_ok_iff.mp ⟨merged, merging⟩).resolve_left (by simp [absent])
    refine ⟨count, sized, ?_⟩
    rw [reservedKept, find?_mergeParameters_reserved merging, absent, sized]
    rfl
  · rcases mem_keys_of_adjustParameters adjusting member with mergedKey | ruleKey
    · exact mem_keys_mergeParameters merging mergedKey
    · left
      rw [mem_keys_seedOf]
      simp only [List.mem_cons, List.not_mem_nil, or_false] at ruleKey
      rcases ruleKey with rfl | rfl | rfl <;> simp [boolOptions, strOptions]

theorem generateParameters_overrides_prevail_on_sample :
    ∃ params, generateParameters (.facts fallbackFacts) "5g-ran" "worker-cnf" "performance" (getTemplate "5g-ran")
        perPodOverrides = .ok params ∧
      ∃ merged, mergeParameters (.facts fallbackFacts) "5g-ran" "worker-cnf" "performance" (getTemplate "5g-ran")
          perPodOverrides = .ok merged ∧
        OverridesPrevail (.facts fallbackFacts) "5g-ran" (getTemplate "5g-ran") perPodOverrides merged params :=
  ⟨_, rfl, generateParameters_overrides_prevail rfl⟩

/-! ## Catalog templates -/

/-- A `default_config` on which no rule of `_adjust_parameters` fires: per-pod power management
only with the default power mode, DPDK only with a single-NUMA-node or restricted topology policy,
and the NUMA split already requested, so the third rule never compares the reserved count. -/
def SettledConfig (config : CoreConfig) : Prop :=
  (config.perPodPowerManagement = true → config.powerMode = "default") ∧
    (config.enableDpdk = true → config.topologyPolicy ∈ ["single-numa-node", "restricted"]) ∧
    config.splitReservedAcrossNuma = true

instance (config : CoreConfig) : Decidable (SettledConfig config) := inferInstanceAs (Decidable (_ ∧ _ ∧ _))

/-- Every catalog template's `default_config` is settled. -/
theorem getTemplate_settled {workloadType : String} {template : WorkloadTemplate}
    (catalogued : getTemplate workloadType = some template) : SettledConfig template.defaultConfig := by
  obtain ⟨before, after, listed, -⟩ := List.lookup_eq_some_iff.mp catalogued
  have member : (workloadType, template) ∈ templates := listed ▸ List.mem_append_right _ (List.mem_cons_self _ _)
  have settled : ∀ entry ∈ templates, SettledConfig entry.2.defaultConfig := by decide
  exact settled _ member

/-- With the split already requested, the third rule returns the map without comparing. -/
theorem resolveNumaSplit_of_split (summary : HardwareSummary) {params : PyDict}
    (split : params.find? "split_reserved_across_numa" = some (.bool true)) : resolveNumaSplit summary params = .ok params := by
  simp [resolveNumaSplit, PyDict.getD_eq, split, PyValue.truthy, pure, Except.pure]

/-- `_adjust_parameters` returns a map unchanged when its seven options are those of a settled
`default_config`. -/
theorem adjustParameters_of_settled (summary : HardwareSummary) {params : PyDict} {config : CoreConfig}
    (agree : ∀ option ∈ boolOptions ++ strOptions, params.find? option = config.toDict.find? option)
    (settled : SettledConfig config) : adjustParameters summary params = .ok params := by
  have perPod := agree "per_pod_power_management" (by decide)
  have powerMode := agree "power_mode" (by decide)
  have dpdk := agree "enable_dpdk" (by decide)
  have topologyPolicy := agree "topology_policy" (by decide)
  have split := agree "split_reserved_across_numa" (by decide)
  simp only [find?_toDict, String.reduceEq, if_true, if_false] at perPod powerMode dpdk topologyPolicy split
  obtain ⟨perPodDefault, dpdkTopology, splitRequested⟩ := settled
  have quietPower : ¬PowerModeConflict params := fun ⟨enabled, notDefault⟩ => by
    simp only [PyDict.getD_eq, perPod, Option.getD_some, PyValue.truthy] at enabled
    exact notDefault (by rw [powerMode, perPodDefault enabled])
  have quietTopology : ¬TopologyConflict params := fun ⟨enabled, outside⟩ => by
    simp only [PyDict.getD_eq, dpdk, Option.getD_some, PyValue.truthy] at enabled
    simp only [topologyPolicy, List.mem_cons, List.not_mem_nil, or_false, Option.some.injEq, PyValue.str.injEq] at outside
    simp only [List.mem_cons, List.not_mem_nil, or_false] at dpdkTopology
    exact outside (dpdkTopology enabled)
  rw [adjustParameters, resolvePowerMode, if_neg quietPower, resolveTopologyPolicy, if_neg quietTopology,
    resolveNumaSplit_of_split summary (by rw [split, splitRequested])]

/-- Called with a catalog template and overrides that set none of the seven core options,
`generate_parameters` returns exactly when the reserved count is overridden or the heuristic
returns, and every map it returns keeps the template's `default_config` value of each core option:
the conflict rules never fire on the catalog's configurations. -/
theorem generateParameters_keeps_template_options {summary : HardwareSummary} {workloadType : String}
    {template : WorkloadTemplate} (catalogued : getTemplate workloadType = some template) (mcpName profileName : String)
    {overrides : Overrides} (unset : ∀ option ∈ boolOptions ++ strOptions, overrides.value? option = none) :
    ((∃ params, generateParameters summary workloadType mcpName profileName (getTemplate workloadType) overrides =
        .ok params) ↔ (overrides.value? "reserved_cpu_count").isSome ∨ SizingReturns summary workloadType) ∧
      ∀ params, generateParameters summary workloadType mcpName profileName (getTemplate workloadType) overrides =
          .ok params →
        ∀ option ∈ boolOptions ++ strOptions, params.find? option = template.defaultConfig.toDict.find? option := by
  have seeded : ∀ {merged}, mergeParameters summary workloadType mcpName profileName (getTemplate workloadType)
      overrides = .ok merged →
      ∀ option ∈ boolOptions ++ strOptions, merged.find? option = template.defaultConfig.toDict.find? option :=
    fun merging option core => by
      rw [find?_mergeParameters_of_seed merging (by rw [mem_keys_seedOf]; simpa using core), unset option core,
        catalogued]
      rfl
  have settles : ∀ {merged}, mergeParameters summary workloadType mcpName profileName (getTemplate workloadType)
      overrides = .ok merged → adjustParameters summary merged = .ok merged :=
    fun merging => adjustParameters_of_settled summary (seeded merging) (getTemplate_settled catalogued)
  refine ⟨⟨fun ⟨params, returns⟩ => sizes_of_generateParameters returns, fun sizes => ?_⟩, fun params returns => ?_⟩
  · rw [← calculateReservedCpus_ok_iff, ← mergeParameters_ok_iff] at sizes
    obtain ⟨merged, merging⟩ := sizes
    exact ⟨merged, generateParameters_eq_ok.mpr ⟨merged, merging, settles merging⟩⟩
  · obtain ⟨merged, merging, adjusting⟩ := generateParameters_eq_ok.mp returns
    rw [settles merging] at adjusting
    cases adjusting
    exact seeded merging

theorem generateParameters_keeps_template_options_on_ran :
    ∃ template, getTemplate "5g-ran" = some template ∧
      ((∃ params, generateParameters (.facts fallbackFacts) "5g-ran" "worker-cnf" "performance" (getTemplate "5g-ran")
          noOverrides = .ok params) ↔
        (noOverrides.value? "reserved_cpu_count").isSome ∨ SizingReturns (.facts fallbackFacts) "5g-ran") ∧
      ∀ params, generateParameters (.facts fallbackFacts) "5g-ran" "worker-cnf" "performance" (getTemplate "5g-ran")
          noOverrides = .ok params →
        ∀ option ∈ boolOptions ++ strOptions, params.find? option = template.defaultConfig.toDict.find? option :=
  ⟨_, rfl, @generateParameters_keeps_template_options (.facts fallbackFacts) "5g-ran" _ rfl "worker-cnf" "performance" _
    (by decide)⟩

end ProfileCreator.PPCCommandGenerator
