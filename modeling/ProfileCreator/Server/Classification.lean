import ProfileCreator.Server.Tools

/-! # What `get_workload_recommendations` matches

The tool lower-cases the description and tests each keyword with Python's `in`, a substring
test. So a keyword counts wherever its letters stand in a row, inside a longer word as well:
"transport" holds both "ran" and "rt" (`getWorkloadRecommendations_matches_inside_words`).

* `getWorkloadRecommendations_substring_keywords` — the type is other than `"custom"` exactly
  when some rule's keyword is a substring of the description, and then a keyword of the named type
  is; the RT kernel is recommended exactly when a real-time keyword is a substring, and the
  ultra-low-latency power mode only then.
* `getWorkloadRecommendations_template_iff` — every type the classifier names has a catalog
  template, so `template_details` is present exactly when the type is not `"custom"`.
* `recommendedSettings_conflictFree` — the recommended settings hold neither conflict that
  `_adjust_parameters` resolves, so the generator keeps their power mode and topology policy.
* `OccursAsWord` — a keyword delimited by non-alphanumeric characters or the ends of the text,
  the reading that a whole-word matcher would give.
-/

namespace ProfileCreator.McpServer

open ProfileCreator.Python ProfileCreator.WorkloadTemplates

/-! ## Keywords are substrings -/

/-- `any(kw in text for kw in keywords)` holds exactly when a keyword is a substring of the text. -/
theorem mentionsAny_iff (text : String) (keywords : List String) :
    mentionsAny text keywords = true ↔ ∃ keyword ∈ keywords, keyword.toList <:+: text.toList := by
  simp only [mentionsAny, List.any_eq_true, contains_iff]

theorem workloadType_getWorkloadRecommendations (description : String) :
    (getWorkloadRecommendations description).workloadType =
      ((classifyWorkload (lower description)).map Prod.fst).getD "custom" := by
  simp only [getWorkloadRecommendations]
  cases classifyWorkload (lower description) <;> rfl

/-- The classifier names the type of a rule whose keywords occur, and names none only when no
rule's keywords do. -/
theorem classifyWorkload_spec (text : String) :
    (∀ found, classifyWorkload text = some found →
      ∃ rule ∈ workloadTypeRules, rule.2 = found ∧ mentionsAny text rule.1) ∧
    (classifyWorkload text = none → ∀ rule ∈ workloadTypeRules, mentionsAny text rule.1 = false) := by
  refine ⟨fun found classified => ?_, fun classified rule member => ?_⟩
  · obtain ⟨rule, first, rfl⟩ := Option.map_eq_some'.mp classified
    have mentioned := List.find?_some first
    exact ⟨rule, List.mem_of_find?_eq_some first, rfl, mentioned⟩
  · rw [classifyWorkload, Option.map_eq_none', List.find?_eq_none] at classified
    simpa using classified rule member

theorem find?_recommendWhen (detected : Bool) (updates : List (String × PyValue)) (reason : String)
    (current : PyDict × List String) (key : String) :
    (recommendWhen detected updates reason current).1.find? key =
      if detected then (updates.foldl (fun settings update => settings.set update.1 update.2) current.1).find? key
      else current.1.find? key := by
  unfold recommendWhen
  split <;> rfl

theorem find?_empty (key : String) : (⟨[], List.nodup_nil⟩ : PyDict).find? key = none := rfl

/-- Only the real-time rule sets the RT kernel. -/
theorem find?_recommendedSettings_rtKernel (description : String) :
    (getWorkloadRecommendations description).recommendedSettings.find? "enable_rt_kernel" =
      if mentionsAny (lower description) ["real-time", "realtime", "rt", "low latency", "latency-sensitive"] then
        some (.bool true)
      else none := by
  simp [getWorkloadRecommendations, find?_recommendWhen, find?_empty]

/-- The power-efficiency rule runs after the real-time rule and sets the default mode over its
ultra-low-latency one. -/
theorem find?_recommendedSettings_powerMode (description : String) :
    (getWorkloadRecommendations description).recommendedSettings.find? "power_mode" =
      if mentionsAny (lower description) ["power efficient", "power saving", "energy"] then some (.str "default")
      else if mentionsAny (lower description) ["real-time", "realtime", "rt", "low latency", "latency-sensitive"] then
        some (.str "ultra-low-latency")
      else none := by
  simp [getWorkloadRecommendations, find?_recommendWhen, find?_empty]

/-- The classifier and the real-time rule, stated over substrings of the lower-cased
description. -/
theorem getWorkloadRecommendations_substring_keywords (description : String) :
    ((getWorkloadRecommendations description).workloadType ≠ "custom" →
        ∃ rule ∈ workloadTypeRules, rule.2.1 = (getWorkloadRecommendations description).workloadType ∧
          ∃ keyword ∈ rule.1, keyword.toList <:+: (lower description).toList) ∧
      ((∃ rule ∈ workloadTypeRules, ∃ keyword ∈ rule.1, keyword.toList <:+: (lower description).toList) →
        (getWorkloadRecommendations description).workloadType ≠ "custom") ∧
      ((getWorkloadRecommendations description).recommendedSettings.find? "enable_rt_kernel" = some (.bool true) ↔
        ∃ keyword ∈ ["real-time", "realtime", "rt", "low latency", "latency-sensitive"],
          keyword.toList <:+: (lower description).toList) ∧
      ((getWorkloadRecommendations description).recommendedSettings.find? "power_mode" =
          some (.str "ultra-low-latency") →
        ∃ keyword ∈ ["real-time", "realtime", "rt", "low latency", "latency-sensitive"],
          keyword.toList <:+: (lower description).toList) := by
  rw [workloadType_getWorkloadRecommendations, find?_recommendedSettings_rtKernel,
    find?_recommendedSettings_powerMode, ← mentionsAny_iff]
  refine ⟨?_, ?_, by split_ifs <;> simp_all, by split_ifs <;> simp_all⟩
  · cases classified : classifyWorkload (lower description) with
    | none => simp
    | some found =>
      obtain ⟨rule, member, rfl, mentioned⟩ := (classifyWorkload_spec _).1 found classified
      exact fun _ => ⟨rule, member, rfl, (mentionsAny_iff _ _).mp mentioned⟩
  · rintro ⟨rule, member, mentioned⟩
    cases classified : classifyWorkload (lower description) with
    | none =>
      have unmentioned := (classifyWorkload_spec _).2 classified rule member
      exact absurd ((mentionsAny_iff _ _).mpr mentioned) (by simp [unmentioned])
    | some found =>
      obtain ⟨rule, member, rfl, -⟩ := (classifyWorkload_spec _).1 found classified
      have typed : ∀ rule ∈ workloadTypeRules, rule.2.1 ≠ "custom" := by decide
      exact typed rule member

/-- Every workload type the classifier names has a catalog template, and `"custom"` has none, so
`template_details` is present exactly when the type is not `"custom"`. -/
theorem getWorkloadRecommendations_template_iff (description : String) :
    (getWorkloadRecommendations description).templateDetails.isSome ↔
      (getWorkloadRecommendations description).workloadType ≠ "custom" := by
  show (getTemplate (getWorkloadRecommendations description).workloadType).isSome ↔ _
  rw [workloadType_getWorkloadRecommendations]
  cases classified : classifyWorkload (lower description) with
  | none => decide
  | some found =>
    obtain ⟨rule, member, rfl, -⟩ := (classifyWorkload_spec _).1 found classified
    have catalogued : ∀ rule ∈ workloadTypeRules, (getTemplate rule.2.1).isSome ∧ rule.2.1 ≠ "custom" := by decide
    exact iff_of_true (catalogued rule member).1 (catalogued rule member).2

/-! ## The recommendations and the generator's rules -/

theorem find?_recommendedSettings_perPod (description : String) :
    (getWorkloadRecommendations description).recommendedSettings.find? "per_pod_power_management" =
      if mentionsAny (lower description) ["power efficient", "power saving", "energy"] then some (.bool true)
      else none := by
  simp [getWorkloadRecommendations, find?_recommendWhen, find?_empty]

theorem find?_recommendedSettings_dpdk (description : String) :
    (getWorkloadRecommendations description).recommendedSettings.find? "enable_dpdk" =
      if mentionsAny (lower description) ["dpdk", "user space networking", "packet processing"] then some (.bool true)
      else none := by
  simp [getWorkloadRecommendations, find?_recommendWhen, find?_empty]

/-- The DPDK and NUMA rules both set the single-NUMA-node policy. -/
theorem find?_recommendedSettings_topology (description : String) :
    (getWorkloadRecommendations description).recommendedSettings.find? "topology_policy" =
      if mentionsAny (lower description) ["numa", "locality", "affinity"] ∨
          mentionsAny (lower description) ["dpdk", "user space networking", "packet processing"] then
        some (.str "single-numa-node")
      else none := by
  simp [getWorkloadRecommendations, find?_recommendWhen, find?_empty]
  split_ifs <;> simp_all

/-- The recommended settings never combine what `_adjust_parameters` overrules: the power-efficiency
rule sets the default power mode with per-pod power management, and the DPDK and NUMA rules set
only the single-NUMA-node policy, so settings passed on unchanged keep their power mode and
topology policy. -/
theorem recommendedSettings_conflictFree (description : String) :
    ¬PPCCommandGenerator.PowerModeConflict (getWorkloadRecommendations description).recommendedSettings ∧
      ¬PPCCommandGenerator.TopologyConflict (getWorkloadRecommendations description).recommendedSettings := by
  rw [PPCCommandGenerator.PowerModeConflict, PPCCommandGenerator.TopologyConflict, PyDict.getD_eq, PyDict.getD_eq,
    find?_recommendedSettings_perPod, find?_recommendedSettings_powerMode, find?_recommendedSettings_dpdk,
    find?_recommendedSettings_topology]
  constructor <;> split_ifs <;> simp_all [PyValue.truthy]

/-! ## Whole words -/

/-- `keyword` stands in `text` at `offset` as a whole word: the text there starts with it, and the
characters right before and right after it, where there are any, are neither letters nor
digits. -/
def WordAt (keyword text : List Char) (offset : Nat) : Prop :=
  keyword <+: text.drop offset ∧ (text.take offset).getLast?.all (fun c => !c.isAlphanum) ∧
    (text.drop (offset + keyword.length)).head?.all (fun c => !c.isAlphanum)

instance (keyword text : List Char) (offset : Nat) : Decidable (WordAt keyword text offset) :=
  inferInstanceAs (Decidable (_ ∧ _ ∧ _))

/-- `keyword` occurs in `text` as a whole word. -/
def OccursAsWord (keyword text : String) : Prop :=
  ∃ offset ∈ List.range (text.length + 1), WordAt keyword.toList text.toList offset

instance (keyword text : String) : Decidable (OccursAsWord keyword text) :=
  inferInstanceAs (Decidable (∃ offset ∈ _, _))

example : OccursAsWord "rt" (lower "An RT workload") ∧ ¬OccursAsWord "rt" (lower "Support") := by decide

/-- "transport" names no keyword as a word, yet it is classified as 5G RAN and gets the RT kernel:
"ran" and "rt" stand inside it. -/
theorem getWorkloadRecommendations_matches_inside_words :
    (getWorkloadRecommendations "transport").workloadType = "5g-ran" ∧
      (getWorkloadRecommendations "transport").recommendedSettings.find? "enable_rt_kernel" = some (.bool true) ∧
      ∀ keyword ∈ ["5g", "ran", "radio", "baseband", "real-time", "realtime", "rt", "low latency",
        "latency-sensitive"], ¬OccursAsWord keyword (lower "transport") := by
  decide

end ProfileCreator.McpServer
