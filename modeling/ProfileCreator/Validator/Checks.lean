import ProfileCreator.Hardware.Topology

/-! # The four sub-checks of `HardwareValidator`

`HardwareValidator.validate` runs `_validate_cpu`, `_validate_rt_kernel`, `_validate_hugepages`
and `_validate_power_mode` and concatenates what they report. This module translates each one;
the aggregation is in `ProfileCreator.Validator.Validate`.

Each sub-check appends to its lists in program order; here a list is the concatenation of the
guarded singletons the code appends. Report lines are `Message`s: every line is a fixed text
except the huge-page estimate, whose `{total_gb:.2f}` field renders a float. That line keeps the
operands of the float (`GbTotal`), not its decimal rendering.
-/

namespace ProfileCreator.HardwareValidator

open ProfileCreator.Python ProfileCreator.Hardware

/-- The request fields `validate` reads, with the value `requirements.get(key, default)` gives
when a key is missing: `""`, `False` and `"default"`, or `None` for the optional counts. -/
structure Requirements where
  workloadType : String
  isolatedCpuCount : Option Int
  reservedCpuCount : Option Int
  enableRtKernel : Bool
  enableDpdk : Bool
  hugepagesSize : Option String
  hugepagesCount : Option Int
  powerMode : String
  perPodPowerManagement : Bool
  deriving DecidableEq, Repr

/-- What `_hugepage_to_gb` returns: the int `0` for an unknown suffix, or
`float(literal) / divisor`. -/
inductive GbAmount
  | zero
  | quotient (literal : String) (divisor : Nat)
  deriving DecidableEq, Repr

/-- `size_gb * hugepage_count`: the int `0`, or a float product. -/
inductive GbTotal
  | zero
  | product (literal : String) (divisor : Nat) (count : Int)
  deriving DecidableEq, Repr

/-- A report line. -/
inductive Message
  | text (line : String)
  | hugepagesEstimate (total : GbTotal)
  deriving DecidableEq, Repr

/-- The dictionary `_validate_cpu` returns. -/
structure CpuValidation where
  isValid : Bool
  errors : List Message
  warnings : List Message
  recommendations : List Message
  deriving DecidableEq, Repr

/-- The dictionary `_validate_rt_kernel` returns; it has no `errors` key. -/
structure RtKernelValidation where
  isValid : Bool
  warnings : List Message
  recommendations : List Message
  deriving DecidableEq, Repr

/-- The dictionary `_validate_hugepages` returns; it has no `warnings` key. -/
structure HugepagesValidation where
  isValid : Bool
  errors : List Message
  recommendations : List Message
  deriving DecidableEq, Repr

/-- The dictionary `_validate_power_mode` returns; it has no `is_valid` key. -/
structure PowerModeValidation where
  warnings : List Message
  recommendations : List Message
  deriving DecidableEq, Repr

/-! ## `_validate_cpu` -/

/-- The sizing error of the fit check. -/
def totalExceedsMessage (totalRequired cpusPerNode : Int) : Message :=
  Message.text ("Total CPUs required (" ++ toString totalRequired ++
    ") exceeds available CPUs per node (" ++ toString cpusPerNode ++ ")")

/-- `_validate_cpu`: the reserved count is required; the isolated count defaults to
`cpus_per_node - reserved`; the plan must fit in `cpus_per_node`. -/
def validateCpu (summary : HardwareSummary) (requirements : Requirements) : CpuValidation :=
  let cpusPerNode := summary.cpusPerNode?.getD 0
  let numaNodes := summary.numaNodesPerNode?.getD 1
  let htEnabled := summary.hyperthreadingEnabled?.getD true
  match requirements.reservedCpuCount with
  | none => ⟨false, [Message.text "Reserved CPU count is required"], [], []⟩
  | some reserved =>
    let isolated := requirements.isolatedCpuCount.getD (cpusPerNode - reserved)
    let totalRequired := isolated + reserved
    let fits := decide (totalRequired ≤ cpusPerNode)
    { isValid := fits
      errors := if fits then [] else [totalExceedsMessage totalRequired cpusPerNode]
      warnings :=
        (if reserved < 2 then
          [Message.text "Reserved CPU count is very low. Minimum 2 CPUs recommended for system workloads."]
        else []) ++
        (if numaNodes > 1 ∧ reserved % numaNodes ≠ 0 then
          [Message.text ("Reserved CPUs (" ++ toString reserved ++ ") not evenly divisible by NUMA nodes (" ++
            toString numaNodes ++ "). Consider using --split-reserved-cpus-across-numa flag.")]
        else [])
      recommendations :=
        (if reserved < 2 then [Message.text "Consider reserving at least 2-4 CPUs for system processes"] else []) ++
        (if requirements.isolatedCpuCount.isNone then
          [Message.text ("Isolated CPU count not specified. Will use " ++ toString isolated ++
            " CPUs (total - reserved)")]
        else []) ++
        (if numaNodes > 1 then
          [Message.text ("Your system has " ++ toString numaNodes ++
            " NUMA nodes. Consider allocating CPUs aligned to NUMA boundaries for optimal performance.")]
        else []) ++
        (if htEnabled then
          [Message.text "Hyperthreading is enabled. For ultra-low latency workloads, consider disabling it with --disable-ht flag."]
        else []) }

/-! ## `_validate_rt_kernel` -/

/-- `"aarch64" in architecture or "arm64" in architecture`. -/
def armArchitecture (architecture : Yaml) : Except PyError Bool := do
  if ← architecture.containsStr "aarch64" then pure true else architecture.containsStr "arm64"

/-- `"x86" in architecture or "amd64" in architecture`. -/
def x86Architecture (architecture : Yaml) : Except PyError Bool := do
  if ← architecture.containsStr "x86" then pure true else architecture.containsStr "amd64"

theorem armArchitecture_str (architecture : String) :
    armArchitecture (.str architecture) = .ok (contains architecture "aarch64" || contains architecture "arm64") := by
  simp only [armArchitecture, Yaml.containsStr, bind, Except.bind, pure, Except.pure]
  cases contains architecture "aarch64" <;> rfl

theorem x86Architecture_str (architecture : String) :
    x86Architecture (.str architecture) = .ok (contains architecture "x86" || contains architecture "amd64") := by
  simp only [x86Architecture, Yaml.containsStr, bind, Except.bind, pure, Except.pure]
  cases contains architecture "x86" <;> rfl

/-- `_validate_rt_kernel`: it only ever warns or recommends. -/
def validateRtKernel (summary : HardwareSummary) (requirements : Requirements) :
    Except PyError RtKernelValidation := do
  let architecture ← summary.firstArchitecture (.str "unknown")
  let workloadType := requirements.workloadType
  if requirements.enableRtKernel then
    let onArm ← armArchitecture architecture
    pure
      { isValid := true
        warnings :=
          (if onArm then
            [Message.text "Real-time kernel on ARM architecture may have limited support. Verify RT kernel availability for your specific hardware."]
          else []) ++
          (if workloadType ∈ ["database", "ai-inference"] then
            [Message.text ("RT kernel typically not required for " ++ workloadType ++
              " workloads. Consider disabling RT kernel to reduce complexity.")]
          else [])
        recommendations :=
          [Message.text "Real-time kernel will be enabled. This provides deterministic latency but requires node reboot during profile application."] }
  else
    pure
      { isValid := true
        warnings := []
        recommendations :=
          if workloadType ∈ ["5g-ran", "telco-vnf"] then
            [Message.text ("RT kernel is highly recommended for " ++ workloadType ++
              " workloads to achieve deterministic low latency.")]
          else [] }

/-! ## `_validate_hugepages` -/

/-- The sizes the x86 whitelist admits. -/
def validSizesX86 : List String := ["2M", "1G"]

/-- The sizes the ARM whitelist admits. -/
def validSizesArm : List String := ["64K", "2M", "32M", "512M", "1G"]

/-- `_hugepage_to_gb`: the size in GiB by its suffix, `float()` raising on a malformed number. -/
def hugepageToGb (size : String) : Except PyError GbAmount :=
  let sizeUpper := upper size
  let scaled (divisor : Nat) : Except PyError GbAmount :=
    let literal := dropLastChar sizeUpper
    if floatAccepts literal then .ok (.quotient literal divisor) else .error (floatConversionError literal)
  if endsWith sizeUpper "G" then scaled 1
  else if endsWith sizeUpper "M" then scaled 1024
  else if endsWith sizeUpper "K" then scaled (1024 * 1024)
  else .ok .zero

/-- `size_gb * hugepage_count`: a float times an int converts the int to a float first. -/
def GbAmount.times : GbAmount → Int → Except PyError GbTotal
  | .zero, _ => .ok .zero
  | .quotient literal divisor, count =>
    if intFitsFloat count then .ok (.product literal divisor count)
    else .error (.overflowError "int too large to convert to float")

/-- The whitelist errors for a huge-page size on the first architecture; an architecture that
is neither x86 nor ARM skips the check. -/
def sizeErrors (architecture : Yaml) (size : String) : Except PyError (List Message) := do
  if ← x86Architecture architecture then
    pure (if size ∈ validSizesX86 then [] else
      [Message.text ("Invalid hugepage size '" ++ size ++ "' for x86_64. Valid sizes: " ++
        String.intercalate ", " validSizesX86)])
  else if ← armArchitecture architecture then
    pure (if size ∈ validSizesArm then [] else
      [Message.text ("Invalid hugepage size '" ++ size ++ "' for aarch64. Valid sizes: " ++
        String.intercalate ", " validSizesArm)])
  else pure []

/-- The recommendation for a non-empty huge-page size: the memory estimate when a non-zero
count is given, else a request for a count. -/
def countRecommendation (size : String) : Option Int → Except PyError Message
  | some count =>
    if count = 0 then .ok (Message.text "Hugepage count not specified. Define the number of hugepages needed for your workload.")
    else do
      let sizeGb ← hugepageToGb size
      let totalGb ← sizeGb.times count
      pure (.hugepagesEstimate totalGb)
  | none => .ok (Message.text "Hugepage count not specified. Define the number of hugepages needed for your workload.")

/-- `_validate_hugepages`: a size outside the architecture's whitelist makes the sub-check
invalid. -/
def validateHugepages (summary : HardwareSummary) (requirements : Requirements) :
    Except PyError HugepagesValidation := do
  let architecture ← summary.firstArchitecture (.str "unknown")
  match requirements.hugepagesSize with
  | some size =>
    if size = "" then pure (noSize requirements)
    else do
      let errors ← sizeErrors architecture size
      let recommendation ← countRecommendation size requirements.hugepagesCount
      pure { isValid := errors.isEmpty, errors := errors, recommendations := [recommendation] }
  | none => pure (noSize requirements)
where
  /-- Without a size only the DPDK advice can apply. -/
  noSize (requirements : Requirements) : HugepagesValidation :=
    { isValid := true
      errors := []
      recommendations :=
        if requirements.enableDpdk then
          [Message.text "DPDK workloads typically require hugepages (1G recommended). Consider configuring hugepages for optimal performance."]
        else [] }

/-! ## `_validate_power_mode` -/

/-- `_validate_power_mode`: warnings only. -/
def validatePowerMode (requirements : Requirements) : PowerModeValidation :=
  let powerMode := requirements.powerMode
  { warnings :=
      (if powerMode ∈ ["low-latency", "ultra-low-latency"] then
        [Message.text ("Power mode '" ++ powerMode ++
          "' will increase power consumption significantly. Ensure adequate cooling and power capacity.")]
      else []) ++
      (if requirements.perPodPowerManagement ∧ powerMode ≠ "default" then
        [Message.text "Per-pod power management and high power consumption mode are mutually exclusive. Per-pod power management will be disabled."]
      else [])
    recommendations := [] }

end ProfileCreator.HardwareValidator
