import ProfileCreator.Validator.Checks

/-! # `HardwareValidator.validate`

`validate` runs the four sub-checks in the order CPU, RT kernel, huge pages, power mode and
folds them into one report. Only the CPU sub-check can make the report invalid: the huge-page
sub-check's errors are demoted to warnings, and the RT-kernel and power-mode sub-checks only
warn or recommend. The RT-kernel and huge-page sub-checks can raise, and then so does
`validate`.

The results here are the spec lemmas later proofs cite instead of unfolding:

* `validate_eq_ok` — what a returned report is made of;
* `validateCpu_errors`, `validateCpu_isValid` — the CPU verdict is a function of
  `cpus_per_node`, the reserved count and the isolated count alone (`cpuErrors`).
-/

namespace ProfileCreator.HardwareValidator

open ProfileCreator.Python ProfileCreator.Hardware

/-- `validation["detailed_checks"]`. -/
structure DetailedChecks where
  cpu : CpuValidation
  rtKernel : RtKernelValidation
  hugepages : HugepagesValidation
  powerMode : PowerModeValidation
  deriving DecidableEq, Repr

/-- The dictionary `validate` returns. -/
structure ValidationReport where
  isValid : Bool
  errors : List Message
  warnings : List Message
  recommendations : List Message
  detailedChecks : DetailedChecks
  overallStatus : String
  deriving DecidableEq, Repr

/-- The text `overall_status` takes for a verdict. -/
def overallStatusFor (isValid : Bool) : String :=
  if isValid then "✓ Configuration is valid and feasible"
  else "✗ Configuration has issues that must be addressed"

/-- The aggregation at the end of `validate`: the CPU verdict is the report's, and the huge-page
errors are appended to the warnings. -/
def aggregate (cpu : CpuValidation) (rtKernel : RtKernelValidation) (hugepages : HugepagesValidation)
    (powerMode : PowerModeValidation) : ValidationReport where
  isValid := cpu.isValid
  errors := if cpu.isValid then [] else cpu.errors
  warnings := cpu.warnings ++ rtKernel.warnings ++ (if hugepages.isValid then [] else hugepages.errors) ++
    powerMode.warnings
  recommendations := cpu.recommendations ++ rtKernel.recommendations ++ hugepages.recommendations
  detailedChecks := ⟨cpu, rtKernel, hugepages, powerMode⟩
  overallStatus := overallStatusFor cpu.isValid

/-- `HardwareValidator.validate`. -/
def validate (summary : HardwareSummary) (requirements : Requirements) : Except PyError ValidationReport := do
  let cpu := validateCpu summary requirements
  let rtKernel ← validateRtKernel summary requirements
  let hugepages ← validateHugepages summary requirements
  pure (aggregate cpu rtKernel hugepages (validatePowerMode requirements))

/-- A returned report is the aggregation of the four sub-checks, the two that can raise having
returned. -/
theorem validate_eq_ok {summary : HardwareSummary} {requirements : Requirements} {report : ValidationReport} :
    validate summary requirements = .ok report ↔
      ∃ rtKernel hugepages, validateRtKernel summary requirements = .ok rtKernel ∧
        validateHugepages summary requirements = .ok hugepages ∧
        report = aggregate (validateCpu summary requirements) rtKernel hugepages (validatePowerMode requirements) := by
  simp only [validate, bind, Except.bind, pure, Except.pure]
  cases validateRtKernel summary requirements <;> cases validateHugepages summary requirements <;>
    simp [eq_comm]

/-! ## The CPU verdict -/

/-- The errors of `_validate_cpu` from the three quantities it sizes with. -/
def cpuErrors (cpusPerNode : Int) : Option Int → Option Int → List Message
  | none, _ => [Message.text "Reserved CPU count is required"]
  | some reserved, isolated =>
    let totalRequired := isolated.getD (cpusPerNode - reserved) + reserved
    if totalRequired ≤ cpusPerNode then [] else [totalExceedsMessage totalRequired cpusPerNode]

theorem validateCpu_errors (summary : HardwareSummary) (requirements : Requirements) :
    (validateCpu summary requirements).errors =
      cpuErrors (summary.cpusPerNode?.getD 0) requirements.reservedCpuCount requirements.isolatedCpuCount := by
  unfold validateCpu
  cases requirements.reservedCpuCount <;> simp only [cpuErrors, decide_eq_true_eq]

theorem validateCpu_isValid (summary : HardwareSummary) (requirements : Requirements) :
    (validateCpu summary requirements).isValid =
      (cpuErrors (summary.cpusPerNode?.getD 0) requirements.reservedCpuCount requirements.isolatedCpuCount).isEmpty := by
  unfold validateCpu
  cases requirements.reservedCpuCount <;> simp only [cpuErrors]
  · rfl
  · split_ifs with fits <;> simp [fits]

/-- The CPU sub-check is valid exactly when it reports no error. -/
theorem validateCpu_isValid_iff (summary : HardwareSummary) (requirements : Requirements) :
    (validateCpu summary requirements).isValid = true ↔ (validateCpu summary requirements).errors = [] := by
  rw [validateCpu_isValid, validateCpu_errors, List.isEmpty_iff]

@[simp] theorem aggregate_isValid (cpu : CpuValidation) (rtKernel : RtKernelValidation)
    (hugepages : HugepagesValidation) (powerMode : PowerModeValidation) :
    (aggregate cpu rtKernel hugepages powerMode).isValid = cpu.isValid := rfl

@[simp] theorem aggregate_errors (cpu : CpuValidation) (rtKernel : RtKernelValidation)
    (hugepages : HugepagesValidation) (powerMode : PowerModeValidation) :
    (aggregate cpu rtKernel hugepages powerMode).errors = if cpu.isValid then [] else cpu.errors := rfl

@[simp] theorem aggregate_overallStatus (cpu : CpuValidation) (rtKernel : RtKernelValidation)
    (hugepages : HugepagesValidation) (powerMode : PowerModeValidation) :
    (aggregate cpu rtKernel hugepages powerMode).overallStatus = overallStatusFor cpu.isValid := rfl

@[simp] theorem aggregate_detailedChecks_cpu (cpu : CpuValidation) (rtKernel : RtKernelValidation)
    (hugepages : HugepagesValidation) (powerMode : PowerModeValidation) :
    (aggregate cpu rtKernel hugepages powerMode).detailedChecks.cpu = cpu := rfl

/-- The verdict, errors and status of a returned report, read off the CPU sub-check. -/
theorem validate_ok_verdict {summary : HardwareSummary} {requirements : Requirements} {report : ValidationReport}
    (returns : validate summary requirements = .ok report) :
    report.isValid = (validateCpu summary requirements).isValid ∧
      report.errors = (validateCpu summary requirements).errors ∧
      report.overallStatus = overallStatusFor (validateCpu summary requirements).isValid ∧
      report.detailedChecks.cpu = validateCpu summary requirements := by
  obtain ⟨_, _, -, -, rfl⟩ := validate_eq_ok.mp returns
  have noErrors := validateCpu_isValid_iff summary requirements
  refine ⟨rfl, ?_, rfl, rfl⟩
  cases valid : (validateCpu summary requirements).isValid
  · simp [valid]
  · simp [valid, noErrors.mp valid]

end ProfileCreator.HardwareValidator
