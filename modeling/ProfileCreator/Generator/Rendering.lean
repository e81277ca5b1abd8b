import ProfileCreator.Generator.Command
import ProfileCreator.Shell.Lexer
import ProfileCreator.MustGather.Summary

/-! # What the shell reads from the rendered command

`build_command` renders each part as words joined by blanks and joins the parts with a line
continuation; nothing is quoted. So the shell reads the intended argument vector back exactly
when every value is a safe word (`buildCommand_round_trips`). A value with a shell character
changes the command: a pool name with a semicolon runs two commands
(`buildCommand_splits_unsafe_name`).

The proof has two halves. `buildCommand_eq_rendered` writes the command as the part separator's
join of the intended parts, each a blank's join of its words; `tokenize_rendered` reads such a
join back word by word, by `lexFrom_chunks`.
-/

namespace ProfileCreator.PPCCommandGenerator

open ProfileCreator.Python ProfileCreator.Hardware ProfileCreator.Shell ProfileCreator.MustGatherParser

/-! ## Reading a rendered command -/

/-- The parts after the first, as chunks: the part separator before the first word of a part, a
blank before each other word. -/
def partChunks : List String → List (List Char × String)
  | [] => []
  | word :: words => (partSeparator.toList, word) :: words.map ([' '], ·)

theorem blankChunks_chars (words : List String) :
    (words.map fun word => " ".toList ++ word.toList).flatten = chunkChars (words.map ([' '], ·)) := by
  simp only [chunkChars, List.map_map]
  rfl

theorem partChunks_chars (word : String) (words : List String) :
    partSeparator.toList ++ (" ".intercalate (word :: words)).toList = chunkChars (partChunks (word :: words)) := by
  rw [toList_intercalate, blankChunks_chars]
  simp [partChunks, chunkChars]

theorem partChunks_words (part : List String) : (partChunks part).map (·.2) = part := by
  cases part <;> simp [partChunks, List.map_map, Function.comp_def]

/-- The rendered command's ending: the part separator and the redirection. -/
theorem lexFrom_redirect (text : List Char) (done : List ShellToken) :
    lexFrom .plain (.word text false false) done (partSeparator ++ "> performance-profile.yaml").toList =
      some (done.reverse ++ .word ⟨text⟩ false :: [.operator ">", .word "performance-profile.yaml" false]) :=
  (rfl : _ = some ((.operator ">" :: .word ⟨text⟩ false :: done).reverse ++
    [.word "performance-profile.yaml" false])).trans (by simp)

/-- Parts of safe words, joined as `build_command` joins them and followed by its redirection, read
back as their words, the operator and its target. -/
theorem tokenize_rendered {parts : List (List String)} (nonempty : parts ≠ [])
    (safe : ∀ part ∈ parts, part ≠ [] ∧ ∀ word ∈ part, SafeWord word) :
    tokenize (partSeparator.intercalate (parts.map (" ".intercalate ·) ++ ["> performance-profile.yaml"])) =
      some (parts.flatten.map (.word · false) ++ [.operator ">", .word "performance-profile.yaml" false]) := by
  obtain ⟨first, parts, rfl⟩ := List.exists_cons_of_ne_nil nonempty
  obtain ⟨firstNonempty, firstSafe⟩ := safe first (List.mem_cons_self _ _)
  obtain ⟨leading, others, rfl⟩ := List.exists_cons_of_ne_nil firstNonempty
  have chunked : ∀ part ∈ parts, partSeparator.toList ++ (" ".intercalate part).toList = chunkChars (partChunks part) := by
    intro part member
    obtain ⟨word, words, rfl⟩ := List.exists_cons_of_ne_nil (safe part (List.mem_cons_of_mem _ member)).1
    exact partChunks_chars word words
  have wellFormed : ∀ chunk ∈ others.map ([' '], ·) ++ parts.flatMap partChunks, Separator chunk.1 ∧ SafeWord chunk.2 := by
    intro chunk member
    simp only [List.mem_append, List.mem_map, List.mem_flatMap] at member
    rcases member with ⟨word, inFirst, rfl⟩ | ⟨part, inParts, inPart⟩
    · exact ⟨.inl rfl, firstSafe word (List.mem_cons_of_mem _ inFirst)⟩
    · obtain ⟨_, partSafe⟩ := safe part (List.mem_cons_of_mem _ inParts)
      cases part with
      | nil => cases inPart
      | cons word words =>
        simp only [partChunks, List.mem_cons, List.mem_map] at inPart
        rcases inPart with rfl | ⟨other, inWords, rfl⟩
        · exact ⟨.inr rfl, partSafe word (List.mem_cons_self _ _)⟩
        · exact ⟨.inl rfl, partSafe other (List.mem_cons_of_mem _ inWords)⟩
  have spelled : (partSeparator.intercalate
      (((leading :: others) :: parts).map (" ".intercalate ·) ++ ["> performance-profile.yaml"])).toList =
      leading.toList ++ (chunkChars (others.map ([' '], ·) ++ parts.flatMap partChunks) ++
        (partSeparator ++ "> performance-profile.yaml").toList) := by
    rw [List.map_cons, List.cons_append, toList_intercalate, toList_intercalate, blankChunks_chars,
      List.map_append, List.flatten_append, List.map_map, chunkChars_append, chunkChars_flatMap]
    simp only [Function.comp_def]
    rw [List.map_congr_left chunked]
    simp [String.toList, List.append_assoc]
  rw [tokenize, spelled, lexFrom_safe_word (firstSafe leading (List.mem_cons_self _ _)),
    lexFrom_chunks _ wellFormed lexFrom_redirect]
  simp [List.map_flatMap, partChunks_words, List.flatMap, Function.comp_def]

/-! ## What `build_command` renders -/

/-- The switches `build_command` adds, in its order. -/
def switchFlags (params : PyDict) : List String :=
  switchPart params "disable_ht" "--disable-ht" ++ switchPart params "enable_dpdk" "--user-level-networking" ++
    switchPart params "split_reserved_across_numa" "--split-reserved-cpus-across-numa" ++
    switchPart params "per_pod_power_management" "--per-pod-power-management"

/-- The argument vector the command means to pass, part by part: the container invocation, the
bundle mount, each value as one word, the switches that are on, and the power mode unless it is
the default. -/
def commandArguments (mustGatherPath mcpName profileName : String) (reserved : Int) (rtKernel : Bool)
    (switches : List String) (powerMode topologyPolicy : String) : List (List String) :=
  [["podman", "run", "--entrypoint", "performance-profile-creator"],
   ["-v", mustGatherPath ++ ":/must-gather:z"],
   ["quay.io/openshift/origin-cluster-node-tuning-operator:4.11"],
   ["--must-gather-dir-path", "/must-gather"],
   ["--mcp-name", mcpName],
   ["--profile-name", profileName],
   ["--reserved-cpu-count", toString reserved],
   ["--rt-kernel", if rtKernel then "true" else "false"]] ++
  switches.map ([·]) ++
  (if powerMode = "default" then [] else [["--power-consumption-mode", powerMode]]) ++
  [["--topology-manager-policy", topologyPolicy]]

theorem eq_of_mem_switchPart {params : PyDict} {key flag word : String} (member : word ∈ switchPart params key flag) :
    word = flag := by
  unfold switchPart at member
  split at member <;> simp_all

theorem switchFlags_safe (params : PyDict) : ∀ flag ∈ switchFlags params, SafeWord flag := by
  intro flag member
  simp only [switchFlags, List.mem_append] at member
  rcases member with ((member | member) | member) | member <;> rw [eq_of_mem_switchPart member] <;> decide

theorem pair_safe {first second : String} (firstSafe : SafeWord first) (secondSafe : SafeWord second) :
    [first, second] ≠ [] ∧ ∀ word ∈ [first, second], SafeWord word := by
  refine ⟨List.cons_ne_nil _ _, fun word member => ?_⟩
  simp only [List.mem_cons, List.not_mem_nil, or_false] at member
  rcases member with rfl | rfl
  · exact firstSafe
  · exact secondSafe

/-- With a safe path, safe values and safe switches, every intended part is a non-empty list of
safe words. -/
theorem commandArguments_safe {mustGatherPath mcpName profileName powerMode topologyPolicy : String}
    (reserved : Int) (rtKernel : Bool) {switches : List String}
    (safePath : mustGatherPath.toList.all safeChar = true)
    (safeValues : ∀ value ∈ [mcpName, profileName, powerMode, topologyPolicy], SafeWord value)
    (safeSwitches : ∀ flag ∈ switches, SafeWord flag) :
    ∀ part ∈ commandArguments mustGatherPath mcpName profileName reserved rtKernel switches powerMode topologyPolicy,
      part ≠ [] ∧ ∀ word ∈ part, SafeWord word := by
  have mountSafe : SafeWord (mustGatherPath ++ ":/must-gather:z") := by
    have suffixSafe : SafeWord ":/must-gather:z" := by decide
    refine ⟨fun empty => suffixSafe.1 (List.append_eq_nil.mp empty).2, ?_⟩
    rw [String.toList, String.data_append, List.all_append, Bool.and_eq_true]
    exact ⟨safePath, suffixSafe.2⟩
  have kernelSafe : SafeWord (if rtKernel then "true" else "false") := by cases rtKernel <;> decide
  simp only [List.mem_cons, List.not_mem_nil, or_false, forall_eq_or_imp, forall_eq] at safeValues
  obtain ⟨mcpSafe, profileSafe, powerSafe, policySafe⟩ := safeValues
  have intSafe := safeWord_toString_int reserved
  intro part member
  simp only [commandArguments, List.mem_append, List.mem_cons, List.mem_map, List.not_mem_nil, or_false] at member
  rcases member with (((rfl | rfl | rfl | rfl | rfl | rfl | rfl | rfl) | ⟨flag, flagged, rfl⟩) | conditional) | rfl
  · exact ⟨List.cons_ne_nil _ _, by decide⟩
  · exact pair_safe (by decide) mountSafe
  · exact ⟨List.cons_ne_nil _ _, by decide⟩
  · exact ⟨List.cons_ne_nil _ _, by decide⟩
  · exact pair_safe (by decide) mcpSafe
  · exact pair_safe (by decide) profileSafe
  · exact pair_safe (by decide) intSafe
  · exact pair_safe (by decide) kernelSafe
  · exact ⟨List.cons_ne_nil _ _, fun word member => List.mem_singleton.mp member ▸ safeSwitches flag flagged⟩
  · split_ifs at conditional
    · cases conditional
    · exact List.mem_singleton.mp conditional ▸ pair_safe (by decide) powerSafe
  · exact pair_safe (by decide) policySafe

section Rendered

variable {summary : HardwareSummary} {architecture : Yaml} {params : PyDict}
  {mustGatherPath mcpName profileName powerMode topologyPolicy : String} {reserved : Int} {rtKernel : Bool}

/-- With its keys set to values of their types, `build_command` renders the intended parts. -/
theorem buildCommand_eq_rendered (listed : summary.firstArchitecture (.str "amd64") = .ok architecture)
    (mcpNamed : params.find? "mcp_name" = some (.str mcpName))
    (profileNamed : params.find? "profile_name" = some (.str profileName))
    (sized : params.find? "reserved_cpu_count" = some (.int reserved))
    (kernel : params.find? "enable_rt_kernel" = some (.bool rtKernel))
    (moded : params.find? "power_mode" = some (.str powerMode))
    (policed : params.find? "topology_policy" = some (.str topologyPolicy)) :
    buildCommand summary mustGatherPath params =
      .ok (partSeparator.intercalate
        ((commandArguments mustGatherPath mcpName profileName reserved rtKernel (switchFlags params) powerMode
          topologyPolicy).map (" ".intercalate ·) ++ ["> performance-profile.yaml"])) := by
  have kernelWord : lower (PyValue.bool rtKernel).toStr = if rtKernel then "true" else "false" := by
    cases rtKernel <;> rfl
  simp only [buildCommand, listed, PyDict.getItem, mcpNamed, profileNamed, sized, PyDict.getD_eq, kernel, moded,
    policed, Option.getD_some, bind, Except.bind, pure, Except.pure, kernelWord]
  refine congrArg (fun parts => Except.ok (partSeparator.intercalate parts)) ?_
  have invocation : " ".intercalate ["podman", "run", "--entrypoint", "performance-profile-creator"] =
      "podman run --entrypoint performance-profile-creator" := rfl
  by_cases standard : powerMode = "default" <;>
    simp [commandArguments, switchFlags, standard, invocation, PyValue.toStr, String.append_assoc,
      List.map_map, Function.comp_def]

/-- With a safe path and safe values, the shell reads the command back as one simple command: its
words are the intended argument vector, and its only redirection is the trailing one. -/
theorem buildCommand_round_trips (listed : summary.firstArchitecture (.str "amd64") = .ok architecture)
    (mcpNamed : params.find? "mcp_name" = some (.str mcpName))
    (profileNamed : params.find? "profile_name" = some (.str profileName))
    (sized : params.find? "reserved_cpu_count" = some (.int reserved))
    (kernel : params.find? "enable_rt_kernel" = some (.bool rtKernel))
    (moded : params.find? "power_mode" = some (.str powerMode))
    (policed : params.find? "topology_policy" = some (.str topologyPolicy))
    (safePath : mustGatherPath.toList.all safeChar = true)
    (safeValues : ∀ value ∈ [mcpName, profileName, powerMode, topologyPolicy], SafeWord value) :
    ∃ command, buildCommand summary mustGatherPath params = .ok command ∧
      (tokenize command).bind simpleCommand =
        some ⟨(commandArguments mustGatherPath mcpName profileName reserved rtKernel (switchFlags params) powerMode
          topologyPolicy).flatten, [⟨none, ">", "performance-profile.yaml"⟩]⟩ := by
  refine ⟨_, buildCommand_eq_rendered listed mcpNamed profileNamed sized kernel moded policed, ?_⟩
  rw [tokenize_rendered (by simp [commandArguments])
      (commandArguments_safe reserved rtKernel safePath safeValues (switchFlags_safe params)),
    Option.some_bind, simpleCommand_words_redirect _ (by decide)]

end Rendered

/-- The parameters synthesis gives a 5G RAN profile on the sample worker. -/
def ranParameters : PyDict :=
  PyDict.ofList
    [("enable_rt_kernel", .bool true), ("disable_ht", .bool true), ("enable_dpdk", .bool true),
     ("power_mode", .str "ultra-low-latency"), ("topology_policy", .str "single-numa-node"),
     ("split_reserved_across_numa", .bool true), ("per_pod_power_management", .bool false),
     ("mcp_name", .str "worker-cnf"), ("profile_name", .str "performance"), ("reserved_cpu_count", .int 4)]

theorem buildCommand_round_trips_on_sample :
    ∃ command, buildCommand (.facts fallbackFacts) "/must-gather" ranParameters = .ok command ∧
      (tokenize command).bind simpleCommand =
        some ⟨(commandArguments "/must-gather" "worker-cnf" "performance" 4 true (switchFlags ranParameters)
          "ultra-low-latency" "single-numa-node").flatten, [⟨none, ">", "performance-profile.yaml"⟩]⟩ :=
  buildCommand_round_trips rfl rfl rfl rfl rfl rfl rfl (by decide) (by decide)

set_option maxRecDepth 4000 in
/-- A pool name with a semicolon: the shell reads two commands, so the line is no single simple
command. -/
theorem buildCommand_splits_unsafe_name :
    ∃ command, buildCommand (.facts fallbackFacts) "/must-gather"
        (ranParameters.set "mcp_name" (.str "worker-cnf;reboot")) = .ok command ∧
      (tokenize command).bind simpleCommand = none :=
  ⟨_, rfl, rfl⟩

end ProfileCreator.PPCCommandGenerator
