import ProfileCreator.Generator.Properties
import ProfileCreator.Generator.Command

/-! # The keys the generator reads

`_adjust_parameters`, `build_command` and `explain_parameters` look a parameter map up under ten
fixed keys (`renderedKeys`) and nowhere else, and the merge of `generate_parameters` reads the
keyword arguments key by key, except for `reserved_cpu_count`, which it also consults to decide
whether to run the heuristic. So a keyword argument under any other key travels into the
returned parameters and has no further effect:

* `buildCommand_congr`, `explainParameters_congr` — two maps that agree on the rendered keys
  render the same command and explanation;
* `generateParameters_congr` — two calls whose keyword arguments differ only under an unread
  key return maps that differ only there.
-/

namespace ProfileCreator.PPCCommandGenerator

open ProfileCreator.Python ProfileCreator.Hardware ProfileCreator.WorkloadTemplates

/-- The keys the conflict rules and the two renderers look up. -/
def renderedKeys : List String :=
  ["mcp_name", "profile_name", "reserved_cpu_count", "enable_rt_kernel", "disable_ht", "enable_dpdk",
   "split_reserved_across_numa", "per_pod_power_management", "power_mode", "topology_policy"]

/-- Two maps that hold the same value, or none, under every key but `skipped`. -/
def AgreeExcept (skipped : String) (first second : PyDict) : Prop :=
  ∀ key, key ≠ skipped → first.find? key = second.find? key

section Reads

variable {skipped : String} (unread : skipped ∉ renderedKeys) {first second : PyDict}
  (agree : AgreeExcept skipped first second)
include unread agree

theorem AgreeExcept.rendered (key : String) (rendered : key ∈ renderedKeys) : first.find? key = second.find? key :=
  agree key fun same => unread (same ▸ rendered)

theorem buildCommand_congr (summary : HardwareSummary) (mustGatherPath : String) :
    buildCommand summary mustGatherPath first = buildCommand summary mustGatherPath second := by
  simp only [buildCommand, PyDict.getItem, PyDict.getD_eq, switchPart]
  simp (disch := decide) only [agree.rendered unread]

theorem explainParameters_congr (summary : HardwareSummary) :
    explainParameters summary first = explainParameters summary second := by
  simp only [explainParameters, PyDict.getItem, PyDict.getD_eq]
  simp (disch := decide) only [agree.rendered unread]

/-- The three rules read only rendered keys and write only rendered keys, so they keep an
agreement off the rendered keys. -/
theorem adjustParameters_congr {summary : HardwareSummary} {firstResult secondResult : PyDict}
    (firstReturns : adjustParameters summary first = .ok firstResult)
    (secondReturns : adjustParameters summary second = .ok secondResult) : AgreeExcept skipped firstResult secondResult := by
  have numaSplit := numaSplitDue_congr summary (agree.rendered unread _ (by decide)) (agree.rendered unread _ (by decide))
  have topology := topologyConflict_congr (agree.rendered unread _ (by decide)) (agree.rendered unread _ (by decide))
  have powerMode := powerModeConflict_congr (agree.rendered unread _ (by decide)) (agree.rendered unread _ (by decide))
  intro key other
  rw [find?_adjustParameters firstReturns, find?_adjustParameters secondReturns, agree key other]
  simp only [numaSplit, topology, powerMode]

end Reads

section Merge

variable {skipped : String} (unread : skipped ∉ renderedKeys) {summary : HardwareSummary}
  {workloadType mcpName profileName : String} {template : Option WorkloadTemplate} {overrides others : Overrides}
  (same : ∀ key, key ≠ skipped → overrides.value? key = others.value? key)
include unread same

omit unread in
theorem mergeParameters_congr {firstMerged secondMerged : PyDict}
    (firstReturns : mergeParameters summary workloadType mcpName profileName template overrides = .ok firstMerged)
    (secondReturns : mergeParameters summary workloadType mcpName profileName template others = .ok secondMerged) :
    AgreeExcept skipped firstMerged secondMerged := by
  intro key other
  rw [find?_mergeParameters firstReturns, find?_mergeParameters secondReturns, same key other]

theorem generateParameters_congr {first second : PyDict}
    (firstReturns : generateParameters summary workloadType mcpName profileName template overrides = .ok first)
    (secondReturns : generateParameters summary workloadType mcpName profileName template others = .ok second) :
    AgreeExcept skipped first second := by
  obtain ⟨firstMerged, firstMerging, firstAdjusting⟩ := generateParameters_eq_ok.mp firstReturns
  obtain ⟨secondMerged, secondMerging, secondAdjusting⟩ := generateParameters_eq_ok.mp secondReturns
  exact adjustParameters_congr unread (mergeParameters_congr same firstMerging secondMerging) firstAdjusting
    secondAdjusting

end Merge

end ProfileCreator.PPCCommandGenerator
