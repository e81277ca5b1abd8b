import ProfileCreator.Generator.Synthesis

/-! # Conflict resolution in `_adjust_parameters`

Each of the three rules reads two keys and may write one. The spec lemmas say what each rule
writes; the congruence lemmas say that a rule's guard only reads its own keys. From them:

* `adjustParameters_conflictFree` — each rule settles its own conflict and the later rules keep
  it settled, so the returned map has none left.
* `find?_adjustParameters` — the frame: a key takes its rule's forced value when that rule fires
  on the input, and keeps its value otherwise.
* `adjustParameters_of_int` — the rules return whenever the reserved count is an int.
* `adjustParameters_idempotent` — no rule writes a key another rule reads, so a second run on
  the result changes nothing.
-/

namespace ProfileCreator.PPCCommandGenerator

open ProfileCreator.Python ProfileCreator.Hardware ProfileCreator.WorkloadTemplates

/-! ## The guards read only their own keys -/

theorem powerModeConflict_congr {first second : PyDict}
    (perPod : first.find? "per_pod_power_management" = second.find? "per_pod_power_management")
    (mode : first.find? "power_mode" = second.find? "power_mode") :
    PowerModeConflict first ↔ PowerModeConflict second := by
  simp only [PowerModeConflict, PyDict.getD_eq, perPod, mode]

theorem topologyConflict_congr {first second : PyDict}
    (dpdk : first.find? "enable_dpdk" = second.find? "enable_dpdk")
    (policy : first.find? "topology_policy" = second.find? "topology_policy") :
    TopologyConflict first ↔ TopologyConflict second := by
  simp only [TopologyConflict, PyDict.getD_eq, dpdk, policy]

theorem numaSplitDue_congr (summary : HardwareSummary) {first second : PyDict}
    (split : first.find? "split_reserved_across_numa" = second.find? "split_reserved_across_numa")
    (reserved : first.find? "reserved_cpu_count" = second.find? "reserved_cpu_count") :
    NumaSplitDue summary first ↔ NumaSplitDue summary second := by
  simp only [NumaSplitDue, PyDict.getD_eq, split, reserved]

/-! ## One spec lemma per rule -/

theorem find?_resolvePowerMode (params : PyDict) (key : String) :
    (resolvePowerMode params).find? key =
      if key = "power_mode" ∧ PowerModeConflict params then some (.str "default") else params.find? key := by
  unfold resolvePowerMode
  by_cases conflict : PowerModeConflict params <;> by_cases same : key = "power_mode" <;> simp [conflict, same]

theorem find?_resolveTopologyPolicy (params : PyDict) (key : String) :
    (resolveTopologyPolicy params).find? key =
      if key = "topology_policy" ∧ TopologyConflict params then some (.str "single-numa-node")
      else params.find? key := by
  unfold resolveTopologyPolicy
  by_cases conflict : TopologyConflict params <;> by_cases same : key = "topology_policy" <;>
    simp [conflict, same]

/-- The third rule splits exactly when it is due. -/
theorem resolveNumaSplit_eq_ok {summary : HardwareSummary} {params result : PyDict}
    (returns : resolveNumaSplit summary params = .ok result) :
    result = if NumaSplitDue summary params then params.set "split_reserved_across_numa" (.bool true)
      else params := by
  unfold NumaSplitDue
  simp only [resolveNumaSplit, Bool.not_eq_true', bind, Except.bind, pure, Except.pure] at returns
  split at returns <;> rename_i guard
  · split at returns
    · cases returns
    · rename_i due comparison
      cases due <;> simp_all
  · cases returns
    rw [if_neg fun ⟨multi, unsplit, _⟩ => guard ⟨multi, unsplit⟩]

/-- The third rule returns whenever the reserved count is an int. -/
theorem resolveNumaSplit_of_int (summary : HardwareSummary) {params : PyDict} {reserved : Int}
    (sized : params.find? "reserved_cpu_count" = some (.int reserved)) :
    resolveNumaSplit summary params =
      .ok (if NumaSplitDue summary params then params.set "split_reserved_across_numa" (.bool true) else params) := by
  unfold NumaSplitDue
  simp only [resolveNumaSplit, PyDict.getD_eq, sized, Option.getD_some, PyValue.geInt_int, Bool.not_eq_true',
    bind, Except.bind, pure, Except.pure]
  split_ifs <;> simp_all
  omega

theorem find?_of_resolveNumaSplit {summary : HardwareSummary} {params result : PyDict}
    (returns : resolveNumaSplit summary params = .ok result) {key : String}
    (other : key ≠ "split_reserved_across_numa") : result.find? key = params.find? key := by
  rw [resolveNumaSplit_eq_ok returns]
  split_ifs <;> simp [other]

/-! ## Each rule settles its conflict; the later rules keep it settled -/

theorem resolvePowerMode_settles (params : PyDict) : ¬PowerModeConflict (resolvePowerMode params) := by
  unfold resolvePowerMode
  split_ifs with conflict
  · simp [PowerModeConflict]
  · exact conflict

theorem resolveTopologyPolicy_settles (params : PyDict) : ¬TopologyConflict (resolveTopologyPolicy params) := by
  unfold resolveTopologyPolicy
  split_ifs with conflict
  · simp [TopologyConflict]
  · exact conflict

theorem resolveNumaSplit_settles {summary : HardwareSummary} {params result : PyDict}
    (returns : resolveNumaSplit summary params = .ok result) : ¬NumaSplitDue summary result := by
  rw [resolveNumaSplit_eq_ok returns]
  split_ifs with due
  · simp [NumaSplitDue]
  · exact due

theorem powerModeConflict_resolveTopologyPolicy (params : PyDict) :
    PowerModeConflict (resolveTopologyPolicy params) ↔ PowerModeConflict params :=
  powerModeConflict_congr (by simp [find?_resolveTopologyPolicy]) (by simp [find?_resolveTopologyPolicy])

theorem topologyConflict_resolvePowerMode (params : PyDict) :
    TopologyConflict (resolvePowerMode params) ↔ TopologyConflict params :=
  topologyConflict_congr (by simp [find?_resolvePowerMode]) (by simp [find?_resolvePowerMode])

theorem numaSplitDue_resolvePowerMode (summary : HardwareSummary) (params : PyDict) :
    NumaSplitDue summary (resolvePowerMode params) ↔ NumaSplitDue summary params :=
  numaSplitDue_congr summary (by simp [find?_resolvePowerMode]) (by simp [find?_resolvePowerMode])

theorem numaSplitDue_resolveTopologyPolicy (summary : HardwareSummary) (params : PyDict) :
    NumaSplitDue summary (resolveTopologyPolicy params) ↔ NumaSplitDue summary params :=
  numaSplitDue_congr summary (by simp [find?_resolveTopologyPolicy]) (by simp [find?_resolveTopologyPolicy])

/-- None of the three rules would fire on the map: the three consistency conditions of
`_adjust_parameters` hold. -/
structure ConflictFree (summary : HardwareSummary) (params : PyDict) : Prop where
  powerMode : ¬PowerModeConflict params
  topologyPolicy : ¬TopologyConflict params
  numaSplit : ¬NumaSplitDue summary params

theorem adjustParameters_conflictFree {summary : HardwareSummary} {params result : PyDict}
    (returns : adjustParameters summary params = .ok result) : ConflictFree summary result where
  powerMode := by
    rw [powerModeConflict_congr (find?_of_resolveNumaSplit returns (by decide))
      (find?_of_resolveNumaSplit returns (by decide)), powerModeConflict_resolveTopologyPolicy]
    exact resolvePowerMode_settles params
  topologyPolicy := by
    rw [topologyConflict_congr (find?_of_resolveNumaSplit returns (by decide))
      (find?_of_resolveNumaSplit returns (by decide))]
    exact resolveTopologyPolicy_settles _
  numaSplit := resolveNumaSplit_settles returns

/-! ## What `_adjust_parameters` changes -/

/-- The conflict rule that writes `key` fires on `params`. -/
def RuleFires (summary : HardwareSummary) (params : PyDict) (key : String) : Prop :=
  key = "power_mode" ∧ PowerModeConflict params ∨ key = "topology_policy" ∧ TopologyConflict params ∨
    key = "split_reserved_across_numa" ∧ NumaSplitDue summary params

/-- The frame of `_adjust_parameters`: a key takes its rule's forced value when that rule fires on
the input, and keeps its input value otherwise. -/
theorem find?_adjustParameters {summary : HardwareSummary} {params result : PyDict}
    (returns : adjustParameters summary params = .ok result) (key : String) :
    result.find? key =
      if key = "split_reserved_across_numa" ∧ NumaSplitDue summary params then some (.bool true)
      else if key = "topology_policy" ∧ TopologyConflict params then some (.str "single-numa-node")
      else if key = "power_mode" ∧ PowerModeConflict params then some (.str "default")
      else params.find? key := by
  rw [resolveNumaSplit_eq_ok returns, apply_ite (PyDict.find? · key)]
  simp only [numaSplitDue_resolveTopologyPolicy, numaSplitDue_resolvePowerMode, PyDict.find?_set,
    find?_resolveTopologyPolicy, topologyConflict_resolvePowerMode, find?_resolvePowerMode]
  by_cases due : NumaSplitDue summary params <;> by_cases split : key = "split_reserved_across_numa" <;>
    simp [due, split]

theorem find?_adjustParameters_of_quiet {summary : HardwareSummary} {params result : PyDict}
    (returns : adjustParameters summary params = .ok result) {key : String}
    (quiet : ¬RuleFires summary params key) : result.find? key = params.find? key := by
  simp only [RuleFires, not_or] at quiet
  rw [find?_adjustParameters returns, if_neg (fun ⟨same, due⟩ => quiet.2.2 ⟨same, due⟩),
    if_neg (fun ⟨same, conflict⟩ => quiet.2.1 ⟨same, conflict⟩),
    if_neg (fun ⟨same, conflict⟩ => quiet.1 ⟨same, conflict⟩)]

/-- The rules add no key besides the three they write. -/
theorem mem_keys_of_adjustParameters {summary : HardwareSummary} {params result : PyDict}
    (returns : adjustParameters summary params = .ok result) {key : String} (member : key ∈ result.keys) :
    key ∈ params.keys ∨ key ∈ ["power_mode", "topology_policy", "split_reserved_across_numa"] := by
  rw [PyDict.mem_keys_iff, find?_adjustParameters returns] at member
  rw [PyDict.mem_keys_iff]
  split_ifs at member <;> simp_all

theorem adjustParameters_optionTyped {summary : HardwareSummary} {params result : PyDict}
    (returns : adjustParameters summary params = .ok result) (typed : OptionTyped params) : OptionTyped result := by
  have powerModeTyped : OptionTyped (resolvePowerMode params) := by
    unfold resolvePowerMode
    split_ifs
    · exact typed.set (fun member => absurd member (by decide)) fun _ => ⟨_, rfl⟩
    · exact typed
  have topologyTyped : OptionTyped (resolveTopologyPolicy (resolvePowerMode params)) := by
    unfold resolveTopologyPolicy
    split_ifs
    · exact powerModeTyped.set (fun member => absurd member (by decide)) fun _ => ⟨_, rfl⟩
    · exact powerModeTyped
  rw [resolveNumaSplit_eq_ok returns]
  split_ifs
  · exact topologyTyped.set (fun _ => ⟨_, rfl⟩) fun member => absurd member (by decide)
  · exact topologyTyped

theorem adjustParameters_of_int (summary : HardwareSummary) {params : PyDict} {reserved : Int}
    (sized : params.find? "reserved_cpu_count" = some (.int reserved)) :
    ∃ result, adjustParameters summary params = .ok result := by
  have kept : (resolveTopologyPolicy (resolvePowerMode params)).find? "reserved_cpu_count" = some (.int reserved) := by
    simpa [find?_resolveTopologyPolicy, find?_resolvePowerMode] using sized
  exact ⟨_, resolveNumaSplit_of_int summary kept⟩

/-! ## `_adjust_parameters` is idempotent -/

/-- The third rule leaves its own result alone: either it split the reserved CPUs, which turns its
guard off, or it returned the map it was given, on which the same comparison gives the same
answer. -/
theorem resolveNumaSplit_fixed {summary : HardwareSummary} {params result : PyDict}
    (returns : resolveNumaSplit summary params = .ok result) : resolveNumaSplit summary result = .ok result := by
  have shape := resolveNumaSplit_eq_ok returns
  split_ifs at shape
  · subst shape
    simp [resolveNumaSplit, PyDict.getD_eq, PyValue.truthy, pure, Except.pure]
  · subst shape
    exact returns

/-- A map `_adjust_parameters` returned is a fixed point of it: no rule fires on it, and the third
rule's comparison, which it reads unchanged, returns again. -/
theorem adjustParameters_fixed {summary : HardwareSummary} {params result : PyDict}
    (returns : adjustParameters summary params = .ok result) : adjustParameters summary result = .ok result := by
  have settled := adjustParameters_conflictFree returns
  simp only [adjustParameters, resolvePowerMode, resolveTopologyPolicy, if_neg settled.powerMode,
    if_neg settled.topologyPolicy]
  exact resolveNumaSplit_fixed returns

/-- Running `_adjust_parameters` on its own result changes nothing; on a map where it raises, the
second run never starts and the same error comes back. -/
theorem adjustParameters_idempotent (summary : HardwareSummary) (params : PyDict) :
    (adjustParameters summary params >>= adjustParameters summary) = adjustParameters summary params := by
  cases returns : adjustParameters summary params with
  | error failure => rfl
  | ok result => exact adjustParameters_fixed returns

end ProfileCreator.PPCCommandGenerator
