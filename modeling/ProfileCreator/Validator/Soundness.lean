import ProfileCreator.Validator.Validate
import ProfileCreator.MustGather.Summary

/-! # What a validation report guarantees

* The verdict, the errors and the overall status are decided by CPU sizing alone:
  `cpus_per_node`, the reserved count and the isolated count.
* With an isolated count given, a valid report means the plan fits the node. The isolated count
  is not checked for sign, and without it the derived count `cpus_per_node - reserved` fills the
  node exactly, so the fit check cannot fail (`validateCpu_isValid_of_isolated_absent`).
* `validate` reads the architecture list only through its first element.
* A huge-page size with a known suffix but a malformed number makes `validate` raise; on a string
  architecture it raises exactly where the huge-page memory estimate cannot be computed
  (`validate_returns_iff`).
* Only `_validate_power_mode` warns about per-pod power management, and only when the request
  asks for it (`perPodWarning_not_mem_validate`).

Concrete inputs use the summary the parser produces for a bundle without nodes
(`analyzeHardware_of_no_nodes`).
-/

namespace ProfileCreator.HardwareValidator

open ProfileCreator.Python ProfileCreator.Hardware ProfileCreator.MustGatherParser

/-! ## What `validate` reads of the summary -/

/-- `validate` reads the summary only through `cpus_per_node`, `numa_nodes_per_node`,
`hyperthreading_enabled` and the first listed architecture. -/
theorem validate_congr_summary {first second : HardwareSummary}
    (cpus : first.cpusPerNode? = second.cpusPerNode?) (numa : first.numaNodesPerNode? = second.numaNodesPerNode?)
    (threads : first.hyperthreadingEnabled? = second.hyperthreadingEnabled?)
    (architecture : first.firstArchitecture (.str "unknown") = second.firstArchitecture (.str "unknown"))
    (requirements : Requirements) :
    validate first requirements = validate second requirements := by
  simp only [validate, validateCpu, validateRtKernel, validateHugepages, cpus, numa, threads, architecture]

@[simp] theorem cpusPerNode?_withArchitectures (summary : HardwareSummary) (architectures : List Yaml) :
    (summary.withArchitectures architectures).cpusPerNode? = summary.cpusPerNode? := by
  cases summary <;> rfl

@[simp] theorem numaNodesPerNode?_withArchitectures (summary : HardwareSummary) (architectures : List Yaml) :
    (summary.withArchitectures architectures).numaNodesPerNode? = summary.numaNodesPerNode? := by
  cases summary <;> rfl

@[simp] theorem hyperthreadingEnabled?_withArchitectures (summary : HardwareSummary) (architectures : List Yaml) :
    (summary.withArchitectures architectures).hyperthreadingEnabled? = summary.hyperthreadingEnabled? := by
  cases summary <;> rfl

theorem firstArchitecture_withArchitectures {summary : HardwareSummary} {first second : List Yaml}
    (sameFirst : first.head? = second.head?) (default : Yaml) :
    (summary.withArchitectures first).firstArchitecture default =
      (summary.withArchitectures second).firstArchitecture default := by
  cases summary with
  | noData => rfl
  | facts =>
    cases first <;> cases second <;> simp_all [HardwareSummary.withArchitectures,
      HardwareSummary.firstArchitecture, HardwareSummary.architectures?]

/-- Without an isolated count the derived count `cpus_per_node - reserved` fills the node
exactly, so the fit check cannot fail. -/
theorem validateCpu_isValid_of_isolated_absent {summary : HardwareSummary} {requirements : Requirements}
    {reserved : Int} (reservedGiven : requirements.reservedCpuCount = some reserved)
    (absent : requirements.isolatedCpuCount = none) :
    (validateCpu summary requirements).isValid = true := by
  simp [validateCpu_isValid, reservedGiven, absent, cpuErrors]

/-! ## Validity is decided by CPU sizing -/

/-- Two runs that agree on `cpus_per_node`, the reserved count and the isolated count get the
same verdict, errors and status; in every report the verdict is "no errors" and is the CPU
sub-check's. -/
theorem validity_decided_by_cpu_sizing :
    (∀ (firstSummary secondSummary : HardwareSummary) (first second : Requirements)
        (firstReport secondReport : ValidationReport),
      validate firstSummary first = .ok firstReport → validate secondSummary second = .ok secondReport →
      firstSummary.cpusPerNode?.getD 0 = secondSummary.cpusPerNode?.getD 0 →
      first.reservedCpuCount = second.reservedCpuCount → first.isolatedCpuCount = second.isolatedCpuCount →
      firstReport.isValid = secondReport.isValid ∧ firstReport.errors = secondReport.errors ∧
        firstReport.overallStatus = secondReport.overallStatus) ∧
    ∀ (summary : HardwareSummary) (requirements : Requirements) (report : ValidationReport),
      validate summary requirements = .ok report →
      (report.isValid = true ↔ report.errors = []) ∧
        (report.isValid = true ↔ report.detailedChecks.cpu.isValid = true) := by
  constructor
  · intro firstSummary secondSummary first second firstReport secondReport firstReturns secondReturns
      cpus reserved isolated
    obtain ⟨firstValid, firstErrors, firstStatus, -⟩ := validate_ok_verdict firstReturns
    obtain ⟨secondValid, secondErrors, secondStatus, -⟩ := validate_ok_verdict secondReturns
    have sameValid : (validateCpu firstSummary first).isValid = (validateCpu secondSummary second).isValid := by
      rw [validateCpu_isValid, validateCpu_isValid, cpus, reserved, isolated]
    have sameErrors : (validateCpu firstSummary first).errors = (validateCpu secondSummary second).errors := by
      rw [validateCpu_errors, validateCpu_errors, cpus, reserved, isolated]
    exact ⟨by rw [firstValid, secondValid, sameValid], by rw [firstErrors, secondErrors, sameErrors],
      by rw [firstStatus, secondStatus, sameValid]⟩
  · intro summary requirements report returns
    obtain ⟨valid, errors, -, cpu⟩ := validate_ok_verdict returns
    rw [valid, errors, cpu]
    exact ⟨validateCpu_isValid_iff summary requirements, Iff.rfl⟩

/-- Test case 2 of the validator tests: a database request reserving 46 CPUs. -/
def databaseRequest : Requirements := ⟨"database", none, some 46, false, false, none, none, "default", false⟩

/-- The same CPU sizing with the RT kernel, DPDK, an x86-invalid huge-page size and per-pod power
management requested for 5G RAN. -/
def ranAdvisoryRequest : Requirements :=
  ⟨"5g-ran", none, some 46, true, true, some "3M", some 4, "ultra-low-latency", true⟩

theorem validity_decided_by_cpu_sizing_on_sample :
    ∃ firstReport secondReport,
      validate (.facts fallbackFacts) databaseRequest = .ok firstReport ∧
        validate (.facts fallbackFacts) ranAdvisoryRequest = .ok secondReport ∧
        firstReport.isValid = secondReport.isValid ∧ firstReport.errors = secondReport.errors ∧
        firstReport.overallStatus = secondReport.overallStatus :=
  ⟨_, _, rfl, rfl, validity_decided_by_cpu_sizing.1 (.facts fallbackFacts) (.facts fallbackFacts)
    databaseRequest ranAdvisoryRequest _ _ rfl rfl rfl rfl rfl⟩

/-! ## The fit check -/

/-- A negative isolated count passes the fit check: two reserved and minus one isolated CPU on
the 48-CPU sample worker. -/
theorem validate_accepts_negative_isolated_count :
    ∃ report, validate (.facts fallbackFacts) ⟨"database", some (-1), some 2, false, false, none, none, "default", false⟩ =
      .ok report ∧ report.isValid = true ∧ ¬ (0 : Int) ≤ -1 :=
  ⟨_, rfl, rfl, by decide⟩

/-- With both counts given, a report is valid exactly when the plan fits the node, and an
over-allocation is reported by the sizing error. -/
theorem validate_fit_check_with_isolated_count {summary : HardwareSummary} {requirements : Requirements}
    {report : ValidationReport} {reserved isolated : Int}
    (reservedGiven : requirements.reservedCpuCount = some reserved)
    (isolatedGiven : requirements.isolatedCpuCount = some isolated)
    (returns : validate summary requirements = .ok report) :
    (report.isValid = true ↔ isolated + reserved ≤ summary.cpusPerNode?.getD 0) ∧
      (report.isValid = false →
        report.errors = [totalExceedsMessage (isolated + reserved) (summary.cpusPerNode?.getD 0)]) := by
  obtain ⟨valid, errors, -, -⟩ := validate_ok_verdict returns
  rw [valid, errors, validateCpu_isValid, validateCpu_errors, reservedGiven, isolatedGiven]
  simp only [cpuErrors, Option.getD_some]
  split_ifs with fits <;> simp [fits]

/-- Forty isolated and nine reserved CPUs overflow the 48-CPU sample worker. -/
theorem validate_fit_check_on_sample :
    ∃ report, validate (.facts fallbackFacts) ⟨"database", some 40, some 9, false, false, none, none, "default", false⟩ =
      .ok report ∧ (report.isValid = true ↔ (40 : Int) + 9 ≤ 48) ∧
        (report.isValid = false → report.errors = [totalExceedsMessage (40 + 9) 48]) :=
  ⟨_, rfl, @validate_fit_check_with_isolated_count (.facts fallbackFacts)
    ⟨"database", some 40, some 9, false, false, none, none, "default", false⟩ _ 9 40 rfl rfl rfl⟩

/-! ## The architecture list -/

/-- On a mixed cluster, listing `arm64` first adds the ARM warning for an RT-kernel request. -/
theorem validate_depends_on_architecture_order :
    validate ((HardwareSummary.facts fallbackFacts).withArchitectures [.str "amd64", .str "arm64"])
        ⟨"5g-ran", none, some 4, true, false, none, none, "default", false⟩ ≠
      validate ((HardwareSummary.facts fallbackFacts).withArchitectures [.str "arm64", .str "amd64"])
        ⟨"5g-ran", none, some 4, true, false, none, none, "default", false⟩ := by
  decide

/-- Summaries that differ only in their architecture lists get the same report whenever the
lists start with the same architecture. -/
theorem validate_reads_first_architecture_only (summary : HardwareSummary) {first second : List Yaml}
    (sameFirst : first.head? = second.head?) (requirements : Requirements) :
    validate (summary.withArchitectures first) requirements =
      validate (summary.withArchitectures second) requirements :=
  validate_congr_summary (by simp) (by simp) (by simp) (firstArchitecture_withArchitectures sameFirst _)
    requirements

/-- Reordering `amd64, arm64` behind `amd64` leaves the report unchanged. -/
theorem validate_reads_first_architecture_only_on_sample :
    ([Yaml.str "amd64", .str "arm64", .str "amd64"]).head? = ([Yaml.str "amd64", .str "amd64", .str "arm64"]).head? ∧
      validate ((HardwareSummary.facts fallbackFacts).withArchitectures [.str "amd64", .str "arm64", .str "amd64"])
          ⟨"5g-ran", none, some 4, true, false, some "64K", some 2, "default", false⟩ =
        validate ((HardwareSummary.facts fallbackFacts).withArchitectures [.str "amd64", .str "amd64", .str "arm64"])
          ⟨"5g-ran", none, some 4, true, false, some "64K", some 2, "default", false⟩ :=
  ⟨rfl, validate_reads_first_architecture_only _ rfl _⟩

/-! ## Huge-page sizes -/

/-- `"xG"` has a known suffix, so `_hugepage_to_gb` calls `float("X")`, which raises. -/
theorem validate_raises_on_malformed_hugepage_size :
    validate (.facts fallbackFacts) ⟨"database", none, some 4, false, false, some "xG", some 1, "default", false⟩ =
      .error (.valueError "could not convert string to float: 'X'") := by
  decide

/-- `_hugepage_to_gb` scales the size by its suffix: once upper-cased it ends in `G`, `M` or `K`. -/
def UnitSuffixed (size : String) : Prop :=
  endsWith (upper size) "G" ∨ endsWith (upper size) "M" ∨ endsWith (upper size) "K"

/-- The memory estimate of `_validate_hugepages` can be computed: whenever a non-empty size and a
non-zero count are given and the size has a unit suffix, `float()` accepts the size without its
suffix and the count converts to a float. -/
def EstimateComputable (requirements : Requirements) : Prop :=
  ∀ size, requirements.hugepagesSize = some size → size ≠ "" →
    ∀ count, requirements.hugepagesCount = some count → count ≠ 0 → UnitSuffixed size →
      floatAccepts (dropLastChar (upper size)) = true ∧ intFitsFloat count = true

/-- A size with a unit suffix is scaled when `float()` accepts the rest; any other size is `0`. -/
theorem hugepageToGb_cases (size : String) :
    (¬UnitSuffixed size ∧ hugepageToGb size = .ok .zero) ∨
      (UnitSuffixed size ∧ ∃ divisor, hugepageToGb size =
        if floatAccepts (dropLastChar (upper size)) then .ok (.quotient (dropLastChar (upper size)) divisor)
        else .error (floatConversionError (dropLastChar (upper size)))) := by
  unfold hugepageToGb UnitSuffixed
  by_cases g : endsWith (upper size) "G" = true
  · exact .inr ⟨.inl g, 1, by simp [g]⟩
  by_cases m : endsWith (upper size) "M" = true
  · exact .inr ⟨.inr (.inl m), 1024, by simp [g, m]⟩
  by_cases k : endsWith (upper size) "K" = true
  · exact .inr ⟨.inr (.inr k), 1024 * 1024, by simp [g, m, k]⟩
  · exact .inl ⟨by simp [g, m, k], by simp [g, m, k]⟩

theorem countRecommendation_ok_iff (size : String) (count? : Option Int) :
    (∃ message, countRecommendation size count? = .ok message) ↔
      ∀ count, count? = some count → count ≠ 0 → UnitSuffixed size →
        floatAccepts (dropLastChar (upper size)) = true ∧ intFitsFloat count = true := by
  cases count? with
  | none => exact iff_of_true ⟨_, rfl⟩ (fun _ absent => by cases absent)
  | some count =>
    by_cases zero : count = 0
    · exact iff_of_true ⟨_, by rw [countRecommendation, if_pos zero]⟩
        (fun _ same nonzero => absurd (Option.some.inj same ▸ zero) nonzero)
    · simp only [countRecommendation, zero, if_false, Option.some.injEq, forall_eq', ne_eq, not_false_eq_true,
        true_implies]
      rcases hugepageToGb_cases size with ⟨plain, converted⟩ | ⟨suffixed, divisor, converted⟩
      · exact iff_of_true ⟨_, by rw [converted]; rfl⟩ (absurd · plain)
      · simp only [converted, suffixed, true_implies]
        by_cases accepted : floatAccepts (dropLastChar (upper size)) <;> by_cases fits : intFitsFloat count <;>
          simp only [accepted, fits, if_true, if_false, GbAmount.times, bind, Except.bind, pure, Except.pure,
            Bool.false_eq_true, and_false, false_and, and_self, reduceCtorEq, Except.ok.injEq, exists_eq', exists_false,
            iff_self]

/-- On a string architecture the `in` tests never raise, so `_validate_rt_kernel` returns. -/
theorem validateRtKernel_of_str {summary : HardwareSummary} {architecture : String}
    (first : summary.firstArchitecture (.str "unknown") = .ok (.str architecture)) (requirements : Requirements) :
    ∃ rtKernel, validateRtKernel summary requirements = .ok rtKernel := by
  simp only [validateRtKernel, first, armArchitecture_str, bind, Except.bind, pure, Except.pure]
  split <;> exact ⟨_, rfl⟩

theorem sizeErrors_of_str (architecture size : String) : ∃ errors, sizeErrors (.str architecture) size = .ok errors := by
  simp only [sizeErrors, x86Architecture_str, armArchitecture_str, bind, Except.bind, pure, Except.pure]
  split_ifs <;> exact ⟨_, rfl⟩

/-- On a string architecture `_validate_hugepages` raises only where the memory estimate does. -/
theorem validateHugepages_ok_iff {summary : HardwareSummary} {architecture : String}
    (first : summary.firstArchitecture (.str "unknown") = .ok (.str architecture)) (requirements : Requirements) :
    (∃ hugepages, validateHugepages summary requirements = .ok hugepages) ↔ EstimateComputable requirements := by
  unfold validateHugepages EstimateComputable
  cases sized : requirements.hugepagesSize with
  | none => exact iff_of_true ⟨_, by rw [first]; rfl⟩ (fun _ absent => by cases absent)
  | some size =>
    by_cases empty : size = ""
    · subst empty
      exact iff_of_true ⟨_, by rw [first]; rfl⟩ (fun _ same nonempty => absurd (Option.some.inj same).symm nonempty)
    · obtain ⟨errors, checked⟩ := sizeErrors_of_str architecture size
      simp only [first, empty, checked, Option.some.injEq, forall_eq', ne_eq, not_false_eq_true, true_implies,
        ← countRecommendation_ok_iff, bind, Except.bind, pure, Except.pure, if_false]
      cases countRecommendation size requirements.hugepagesCount
      · exact iff_of_false (fun ⟨_, raised⟩ => by cases raised) (fun ⟨_, raised⟩ => by cases raised)
      · exact iff_of_true ⟨_, rfl⟩ ⟨_, rfl⟩

/-- On every summary whose first architecture is a string, as every summary of string labels and
the no-data marker have, `validate` returns a report exactly when the huge-page memory estimate
can be computed. -/
theorem validate_returns_iff {summary : HardwareSummary} {architecture : String}
    (first : summary.firstArchitecture (.str "unknown") = .ok (.str architecture)) (requirements : Requirements) :
    (∃ report, validate summary requirements = .ok report) ↔ EstimateComputable requirements := by
  obtain ⟨rtKernel, checked⟩ := validateRtKernel_of_str first requirements
  rw [← validateHugepages_ok_iff first]
  simp only [validate_eq_ok, checked]
  constructor
  · rintro ⟨_, _, hugepages, -, returned, -⟩
    exact ⟨hugepages, returned⟩
  · rintro ⟨hugepages, returned⟩
    exact ⟨_, _, hugepages, rfl, returned, rfl⟩

theorem validate_returns_iff_on_malformed_size :
    (HardwareSummary.facts fallbackFacts).firstArchitecture (.str "unknown") = .ok (.str "amd64") ∧
      ((∃ report, validate (.facts fallbackFacts)
          ⟨"database", none, some 4, false, false, some "xG", some 1, "default", false⟩ = .ok report) ↔
        EstimateComputable ⟨"database", none, some 4, false, false, some "xG", some 1, "default", false⟩) :=
  ⟨rfl, @validate_returns_iff (.facts fallbackFacts) "amd64" rfl _⟩

/-! ## The per-pod warning -/

/-- The warning `_validate_power_mode` gives for per-pod power management with a power mode other
than `"default"`. -/
def perPodWarning : Message :=
  Message.text "Per-pod power management and high power consumption mode are mutually exclusive. Per-pod power management will be disabled."

/-- A report line that starts otherwise is not the per-pod warning. -/
theorem perPodWarning_ne_text {line : String} (differs : line.data.take 2 ≠ ['P', 'e']) :
    perPodWarning ≠ Message.text line := by
  intro same
  cases same
  exact differs rfl

theorem perPodWarning_ne_text_append {start : String} (rest : String) (differs : start.data.take 2 ≠ ['P', 'e'])
    (long : 2 ≤ start.data.length) : perPodWarning ≠ Message.text (start ++ rest) := by
  intro same
  have prefixes := congrArg (fun line : String => line.data.take 2) (Message.text.inj same)
  simp only [String.data_append, List.take_append_of_le_length long] at prefixes
  exact differs prefixes.symm

theorem perPodWarning_not_mem_validateCpu (summary : HardwareSummary) (requirements : Requirements) :
    perPodWarning ∉ (validateCpu summary requirements).warnings := by
  unfold validateCpu
  split
  · simp
  · simp only [List.mem_append]
    split_ifs <;> simp (disch := decide) [String.append_assoc, perPodWarning_ne_text, perPodWarning_ne_text_append]

theorem perPodWarning_not_mem_validateRtKernel {summary : HardwareSummary} {requirements : Requirements}
    {rtKernel : RtKernelValidation} (returns : validateRtKernel summary requirements = .ok rtKernel) :
    perPodWarning ∉ rtKernel.warnings := by
  obtain ⟨architecture, -, returns⟩ := bind_eq_ok.mp returns
  split at returns
  · obtain ⟨onArm, -, returns⟩ := bind_eq_ok.mp returns
    cases returns
    simp only [List.mem_append]
    split_ifs <;> simp (disch := decide) [String.append_assoc, perPodWarning_ne_text, perPodWarning_ne_text_append]
  · cases returns
    simp

theorem perPodWarning_not_mem_sizeErrors {architecture : Yaml} {size : String} {errors : List Message}
    (checked : sizeErrors architecture size = .ok errors) : perPodWarning ∉ errors := by
  obtain ⟨onX86, -, checked⟩ := bind_eq_ok.mp checked
  split at checked
  · cases checked
    split_ifs <;> simp (disch := decide) [String.append_assoc, perPodWarning_ne_text, perPodWarning_ne_text_append]
  · obtain ⟨onArm, -, checked⟩ := bind_eq_ok.mp checked
    split at checked
    · cases checked
      split_ifs <;> simp (disch := decide) [String.append_assoc, perPodWarning_ne_text, perPodWarning_ne_text_append]
    · cases checked
      simp

theorem perPodWarning_not_mem_validateHugepages {summary : HardwareSummary} {requirements : Requirements}
    {hugepages : HugepagesValidation} (returns : validateHugepages summary requirements = .ok hugepages) :
    perPodWarning ∉ hugepages.errors := by
  obtain ⟨architecture, -, returns⟩ := bind_eq_ok.mp returns
  split at returns
  · split at returns
    · cases returns
      simp [validateHugepages.noSize]
    · obtain ⟨errors, checked, returns⟩ := bind_eq_ok.mp returns
      obtain ⟨_, -, returns⟩ := bind_eq_ok.mp returns
      cases returns
      exact perPodWarning_not_mem_sizeErrors checked
  · cases returns
    simp [validateHugepages.noSize]

theorem perPodWarning_not_mem_validatePowerMode {requirements : Requirements}
    (off : requirements.perPodPowerManagement = false) : perPodWarning ∉ (validatePowerMode requirements).warnings := by
  simp only [validatePowerMode, off, Bool.false_eq_true, false_and, if_false, List.append_nil]
  split_ifs <;> simp (disch := decide) [String.append_assoc, perPodWarning_ne_text, perPodWarning_ne_text_append]

/-- Without per-pod power management in the request no report line is the per-pod warning: no
other sub-check produces it. -/
theorem perPodWarning_not_mem_validate {summary : HardwareSummary} {requirements : Requirements}
    {report : ValidationReport} (off : requirements.perPodPowerManagement = false)
    (returns : validate summary requirements = .ok report) : perPodWarning ∉ report.warnings := by
  obtain ⟨rtKernel, hugepages, rtReturns, hugepagesReturns, rfl⟩ := validate_eq_ok.mp returns
  simp only [aggregate, List.mem_append, not_or]
  refine ⟨⟨⟨perPodWarning_not_mem_validateCpu _ _, perPodWarning_not_mem_validateRtKernel rtReturns⟩, ?_⟩,
    perPodWarning_not_mem_validatePowerMode off⟩
  split_ifs
  · simp
  · exact perPodWarning_not_mem_validateHugepages hugepagesReturns

/-- The hypothesis is needed: per-pod power management with the low-latency mode is warned about. -/
example : ∃ report, validate (.facts ⟨1, 1, 48, 48, [.str "amd64"], 2, true, none⟩)
    ⟨"database", none, some 4, false, false, none, none, "low-latency", true⟩ = .ok report ∧
      perPodWarning ∈ report.warnings :=
  ⟨_, rfl, by decide⟩

end ProfileCreator.HardwareValidator
