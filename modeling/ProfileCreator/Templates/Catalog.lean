import ProfileCreator.Python.Dict

/-! # `WorkloadTemplates`

The static catalog of workload templates. Every entry's `default_config` sets the seven core
options, in the same order; `CoreConfig` is that record, so a template without one of them
cannot be written, and `CoreConfig.toDict` is the dictionary the code copies.
-/

namespace ProfileCreator.WorkloadTemplates

open ProfileCreator.Python

/-- A `default_config`: the seven core options. -/
structure CoreConfig where
  enableRtKernel : Bool
  disableHt : Bool
  enableDpdk : Bool
  powerMode : String
  topologyPolicy : String
  splitReservedAcrossNuma : Bool
  perPodPowerManagement : Bool
  deriving DecidableEq, Repr

/-- The dictionary `{"enable_rt_kernel": ..., "per_pod_power_management": ...}`. -/
def CoreConfig.toDict (config : CoreConfig) : PyDict :=
  PyDict.ofList
    [("enable_rt_kernel", .bool config.enableRtKernel),
     ("disable_ht", .bool config.disableHt),
     ("enable_dpdk", .bool config.enableDpdk),
     ("power_mode", .str config.powerMode),
     ("topology_policy", .str config.topologyPolicy),
     ("split_reserved_across_numa", .bool config.splitReservedAcrossNuma),
     ("per_pod_power_management", .bool config.perPodPowerManagement)]

/-- The core options that take a bool. -/
def boolOptions : List String :=
  ["enable_rt_kernel", "disable_ht", "enable_dpdk", "split_reserved_across_numa", "per_pod_power_management"]

/-- The core options that take a string. -/
def strOptions : List String := ["power_mode", "topology_policy"]

/-- A template's `recommended_hugepages`. -/
structure RecommendedHugepages where
  size : String
  note : String
  deriving DecidableEq, Repr

/-- A catalog entry. -/
structure WorkloadTemplate where
  name : String
  description : String
  defaultConfig : CoreConfig
  recommendedHugepages : RecommendedHugepages
  useCases : List String
  deriving DecidableEq, Repr

/-- `WorkloadTemplates.TEMPLATES`, in its insertion order. -/
def templates : List (String × WorkloadTemplate) :=
  [("5g-ran",
    { name := "5G RAN (Radio Access Network)"
      description := "Optimized for 5G Radio Access Network workloads requiring ultra-low latency and deterministic performance. Uses real-time kernel, disabled hyperthreading, and aggressive power settings."
      defaultConfig := ⟨true, true, true, "ultra-low-latency", "single-numa-node", true, false⟩
      recommendedHugepages := ⟨"1G", "1G hugepages recommended for DPDK packet processing"⟩
      useCases := ["5G base station processing", "Real-time radio signal processing",
        "Ultra-low latency packet processing"] }),
   ("telco-vnf",
    { name := "Telco VNF (Virtual Network Function)"
      description := "Optimized for Telco VNF workloads including packet processing, session border controllers, and network functions. Enables RT kernel and DPDK for high-performance networking."
      defaultConfig := ⟨true, false, true, "low-latency", "single-numa-node", true, false⟩
      recommendedHugepages := ⟨"1G", "1G hugepages recommended for DPDK"⟩
      useCases := ["Virtual routers", "Session border controllers", "Packet gateways",
        "DPI (Deep Packet Inspection)"] }),
   ("database",
    { name := "Database Server"
      description := "Optimized for database workloads requiring memory optimization and consistent performance. Uses hugepages for memory management but does not require RT kernel."
      defaultConfig := ⟨false, false, false, "default", "restricted", true, false⟩
      recommendedHugepages := ⟨"2M", "2M hugepages for database shared memory buffers"⟩
      useCases := ["PostgreSQL", "MySQL/MariaDB", "MongoDB", "Oracle Database"] }),
   ("ai-inference",
    { name := "AI/ML Inference"
      description := "Optimized for AI/ML inference workloads requiring CPU isolation and consistent performance. Does not use RT kernel but isolates CPUs for predictable inference latency."
      defaultConfig := ⟨false, false, false, "low-latency", "single-numa-node", true, false⟩
      recommendedHugepages := ⟨"2M", "2M hugepages for model data structures"⟩
      useCases := ["TensorFlow Serving", "PyTorch inference", "ONNX Runtime", "Real-time AI inference"] }),
   ("hpc",
    { name := "High Performance Computing"
      description := "Optimized for HPC workloads requiring maximum compute throughput and NUMA awareness. Focuses on CPU isolation and memory locality."
      defaultConfig := ⟨false, false, false, "low-latency", "single-numa-node", true, false⟩
      recommendedHugepages := ⟨"1G", "1G hugepages for large memory allocations"⟩
      useCases := ["Scientific computing", "Computational fluid dynamics", "Molecular dynamics",
        "Weather simulation"] }),
   ("low-latency-trading",
    { name := "Low-Latency Trading"
      description := "Optimized for financial trading systems requiring microsecond latency. Uses RT kernel, disabled HT, and ultra-low-latency power mode."
      defaultConfig := ⟨true, true, true, "ultra-low-latency", "single-numa-node", true, false⟩
      recommendedHugepages := ⟨"1G", "1G hugepages for lock-free data structures"⟩
      useCases := ["High-frequency trading", "Market data processing", "Order matching engines",
        "Risk calculation engines"] }),
   ("media-processing",
    { name := "Media Processing"
      description := "Optimized for real-time media encoding/transcoding workloads. Balances between throughput and latency."
      defaultConfig := ⟨false, false, false, "default", "restricted", true, true⟩
      recommendedHugepages := ⟨"2M", "2M hugepages for frame buffers"⟩
      useCases := ["Video transcoding", "Live streaming", "Real-time video processing", "Audio processing"] })]

/-- `get_template`. -/
def getTemplate (workloadType : String) : Option WorkloadTemplate := templates.lookup workloadType

/-- One entry of `list_templates`. -/
structure TemplateListing where
  type : String
  name : String
  description : String
  useCases : List String
  requiresRtKernel : Bool
  requiresDpdk : Bool
  powerMode : String
  deriving DecidableEq, Repr

/-- `list_templates`. -/
def listTemplates : List TemplateListing :=
  templates.map fun (key, template) =>
    { type := key, name := template.name, description := template.description, useCases := template.useCases
      requiresRtKernel := template.defaultConfig.enableRtKernel
      requiresDpdk := template.defaultConfig.enableDpdk
      powerMode := template.defaultConfig.powerMode }

/-- `get_template_names`. -/
def getTemplateNames : List String := templates.map Prod.fst

/-- `find_template_by_keywords`: the templates whose description, use cases or name contain one
of the keywords, compared in lower case. -/
def findTemplateByKeywords (keywords : List String) : List String :=
  let keywordsLower := keywords.map lower
  templates.filterMap fun (key, template) =>
    let searchText := lower template.description ++ " " ++ lower (" ".intercalate template.useCases) ++ " " ++
      lower template.name
    if keywordsLower.any (contains searchText ·) then some key else none

/-! ## The seven options of a `default_config` -/

theorem find?_toDict (config : CoreConfig) (key : String) :
    config.toDict.find? key =
      if key = "per_pod_power_management" then some (.bool config.perPodPowerManagement)
      else if key = "split_reserved_across_numa" then some (.bool config.splitReservedAcrossNuma)
      else if key = "topology_policy" then some (.str config.topologyPolicy)
      else if key = "power_mode" then some (.str config.powerMode)
      else if key = "enable_dpdk" then some (.bool config.enableDpdk)
      else if key = "disable_ht" then some (.bool config.disableHt)
      else if key = "enable_rt_kernel" then some (.bool config.enableRtKernel)
      else none := by
  simp only [CoreConfig.toDict, PyDict.ofList, List.foldl, PyDict.find?_set]
  rfl

/-- A parameter map sets every core option, each bool option to a bool and each string option to
a string. -/
structure OptionTyped (params : PyDict) : Prop where
  bools : ∀ option ∈ boolOptions, ∃ flag, params.find? option = some (.bool flag)
  strs : ∀ option ∈ strOptions, ∃ text, params.find? option = some (.str text)

theorem CoreConfig.toDict_optionTyped (config : CoreConfig) : OptionTyped config.toDict where
  bools option member := by
    simp only [boolOptions, List.mem_cons, List.not_mem_nil, or_false] at member
    rcases member with rfl | rfl | rfl | rfl | rfl <;> simp [find?_toDict]
  strs option member := by
    simp only [strOptions, List.mem_cons, List.not_mem_nil, or_false] at member
    rcases member with rfl | rfl <;> simp [find?_toDict]

/-- Setting a bool option to a bool, a string option to a string or any other key to anything
keeps the options typed. -/
theorem OptionTyped.set {params : PyDict} (typed : OptionTyped params) {key : String} {value : PyValue}
    (boolFits : key ∈ boolOptions → ∃ flag, value = .bool flag)
    (strFits : key ∈ strOptions → ∃ text, value = .str text) : OptionTyped (params.set key value) where
  bools option member := by
    rw [PyDict.find?_set]
    split_ifs with same
    · subst same
      obtain ⟨flag, rfl⟩ := boolFits member
      exact ⟨flag, rfl⟩
    · exact typed.bools option member
  strs option member := by
    rw [PyDict.find?_set]
    split_ifs with same
    · subst same
      obtain ⟨text, rfl⟩ := strFits member
      exact ⟨text, rfl⟩
    · exact typed.strs option member

theorem mem_keys_toDict (config : CoreConfig) (key : String) :
    key ∈ config.toDict.keys ↔ key ∈ boolOptions ∨ key ∈ strOptions := by
  have listed : config.toDict.keys = ["enable_rt_kernel", "disable_ht", "enable_dpdk", "power_mode",
      "topology_policy", "split_reserved_across_numa", "per_pod_power_management"] := rfl
  rw [listed, ← List.mem_append]
  exact List.Perm.mem_iff (by decide)

end ProfileCreator.WorkloadTemplates
