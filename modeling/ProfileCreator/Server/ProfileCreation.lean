import ProfileCreator.Server.Runs
import ProfileCreator.Generator.Rendering

/-! # `create_performance_profile`

The last tool of the guided workflow runs the command `generate_ppc_command` returned through a
shell, with `capture_output=True`, and saves the captured standard output as the profile. What
the shell does with a command line, to its outcome and to the host's files, and which files can
be opened are arguments (`Host`).

* `createPerformanceProfile_cases` — the tool fails and leaves the files as the shell left them,
  or the command exited with 0, the output path opened, and the tool writes the captured output
  there over the shell's files.
* `createPerformanceProfile_saves_empty_profile` — every command line `build_command` renders
  from safe words ends with `> performance-profile.yaml`, so a POSIX shell creates or truncates
  that file in the server's working directory on every run it starts, and captures nothing: the
  tool reports an empty `profile_yaml` and saves an empty file at `output_path`, which is the
  shell's file itself when the working directory is that of `output_path`.
-/

namespace ProfileCreator.McpServer

open ProfileCreator.Python ProfileCreator.Hardware ProfileCreator.Shell ProfileCreator.MustGatherParser
  ProfileCreator.PPCCommandGenerator ProfileCreator.WorkloadTemplates

/-- What `subprocess.run(ppc_command, shell=True, capture_output=True, text=True, timeout=60)`
comes back with: the completed process, the timeout, or another exception, by its message. -/
inductive RunOutcome
  | completed (returncode : Int) (stdout stderr : String)
  | timedOut
  | raised (message : String)

/-- The host's files: the contents of each file, by absolute path. -/
abbrev Files := String → Option String

/-- A path as the process opens it: itself when absolute, else under `directory`. -/
def underDirectory (directory path : String) : String :=
  if path.startsWith "/" then path else directory ++ "/" ++ path

/-- The host the tool runs on: the server's working directory, what its shell does with a
command line (the outcome, and the files after it), and the message of the exception
`open(path, 'w')` raises on the files, `none` where the file opens. -/
structure Host where
  workingDirectory : String
  runShell : String → Files → RunOutcome × Files
  openError : String → Files → Option String

/-- Where the server's process opens `path`. -/
def Host.absolute (host : Host) (path : String) : String :=
  underDirectory host.workingDirectory path

/-- The files after `path` is written with `contents`. -/
def writeFile (files : Files) (path contents : String) : Files :=
  fun other => if other = path then some contents else files other

@[simp] theorem writeFile_self (files : Files) (path contents : String) :
    writeFile files path contents path = some contents := by
  simp [writeFile]

theorem writeFile_of_ne (files : Files) {path other : String} (contents : String)
    (elsewhere : other ≠ path) : writeFile files path contents other = files other := by
  simp [writeFile, elsewhere]

/-- The two shapes of the tool's response. -/
inductive CreateResponse
  | success (outputPath profileYaml message : String)
  | failure (error : String)

/-- `create_performance_profile(ppc_command, output_path)` over the host's files. -/
def createPerformanceProfile (host : Host) (files : Files) (ppcCommand outputPath : String) :
    CreateResponse × Files :=
  let (outcome, afterRun) := host.runShell ppcCommand files
  match outcome with
  | .completed returncode stdout stderr =>
    if returncode ≠ 0 then (.failure ("PPC command failed: " ++ stderr), afterRun)
    else
      match host.openError outputPath afterRun with
      | some message => (.failure message, afterRun)
      | none =>
        (.success outputPath stdout ("Performance profile created successfully at " ++ outputPath),
          writeFile afterRun (host.absolute outputPath) stdout)
  | .timedOut => (.failure "PPC command timed out after 60 seconds", afterRun)
  | .raised message => (.failure message, afterRun)

/-- The tool fails and leaves the files as the shell left them, or the command exited with 0, the
output path opened, and the captured output is both the returned profile and the file's contents. -/
theorem createPerformanceProfile_cases (host : Host) (files : Files) (ppcCommand outputPath : String) :
    (∃ error, createPerformanceProfile host files ppcCommand outputPath =
        (.failure error, (host.runShell ppcCommand files).2)) ∨
      ∃ stdout stderr, (host.runShell ppcCommand files).1 = .completed 0 stdout stderr ∧
        host.openError outputPath (host.runShell ppcCommand files).2 = none ∧
        createPerformanceProfile host files ppcCommand outputPath =
          (.success outputPath stdout ("Performance profile created successfully at " ++ outputPath),
            writeFile (host.runShell ppcCommand files).2 (host.absolute outputPath) stdout) := by
  unfold createPerformanceProfile
  obtain ⟨outcome, afterRun⟩ := host.runShell ppcCommand files
  dsimp only
  split
  · next returncode stdout stderr =>
    split
    · exact .inl ⟨_, rfl⟩
    · next exited =>
      split
      · exact .inl ⟨_, rfl⟩
      · next opened => exact .inr ⟨stdout, stderr, by rw [not_not.mp exited], opened, rfl⟩
  · exact .inl ⟨_, rfl⟩
  · exact .inl ⟨_, rfl⟩

/-! ## The generated command redirects the profile -/

/-- A POSIX shell, on a simple command whose standard output is redirected to `target`: the shell
opens `target` for writing before the command runs, so the file exists after every run it starts,
and the command's standard output goes there, none of it to the caller. -/
structure Host.RedirectsStandardOutput (host : Host) : Prop where
  capturesNothing : ∀ command words target files,
    (tokenize command).bind simpleCommand = some ⟨words, [⟨none, ">", target⟩]⟩ →
    ∀ returncode stdout stderr, (host.runShell command files).1 = .completed returncode stdout stderr → stdout = ""
  createsTarget : ∀ command words target files,
    (tokenize command).bind simpleCommand = some ⟨words, [⟨none, ">", target⟩]⟩ →
    (∀ message, (host.runShell command files).1 ≠ .raised message) →
    ((host.runShell command files).2 (host.absolute target)).isSome

theorem firstArchitecture_of_buildCommand {summary : HardwareSummary} {mustGatherPath command : String}
    {params : PyDict} (returns : buildCommand summary mustGatherPath params = .ok command) :
    ∃ architecture, summary.firstArchitecture (.str "amd64") = .ok architecture := by
  obtain ⟨architecture, listed, -⟩ := bind_eq_ok.mp returns
  exact ⟨architecture, listed⟩

/-- The tool passes `power_mode` and `topology_policy` on, and the conflict rules may replace them
by `"default"` and `"single-numa-node"`. -/
theorem generateParameters_strOptions {summary : HardwareSummary} {args : GeneratePpcCommandArgs} {params : PyDict}
    (returns : generateParameters summary args.workloadType args.mcpName args.profileName (getTemplate args.workloadType)
      args.overrides = .ok params) :
    (params.find? "power_mode" = some (.str args.powerMode) ∨ params.find? "power_mode" = some (.str "default")) ∧
      (params.find? "topology_policy" = some (.str args.topologyPolicy) ∨
        params.find? "topology_policy" = some (.str "single-numa-node")) := by
  obtain ⟨merged, merging, adjusting⟩ := generateParameters_eq_ok.mp returns
  have passed : ∀ key value, args.overrides.value? key = some value → merged.find? key = some value :=
    fun key value overridden => by
      rw [find?_mergeParameters merging, overridden]
      rfl
  have powerMode := passed "power_mode" _ rfl
  have topologyPolicy := passed "topology_policy" _ rfl
  rw [find?_adjustParameters adjusting, find?_adjustParameters adjusting]
  constructor
  · by_cases conflict : PowerModeConflict merged <;> simp [conflict, powerMode]
  · by_cases conflict : TopologyConflict merged <;> simp [conflict, topologyPolicy]

/-- A command the tool generates from safe words is one simple command whose standard output goes
to `performance-profile.yaml`. -/
theorem generatePpcCommand_redirected {state : ServerState} {args : GeneratePpcCommandArgs}
    {generated : GeneratedCommand} (returns : generatePpcCommand state args = .ok generated)
    (safePath : state.mustGatherPath.all (·.toList.all safeChar) = true)
    (safeArgs : ∀ value ∈ [args.mcpName, args.profileName, args.powerMode, args.topologyPolicy], SafeWord value) :
    ∃ words, (tokenize generated.command).bind simpleCommand =
      some ⟨words, [⟨none, ">", "performance-profile.yaml"⟩]⟩ := by
  obtain ⟨info, path, rfl, -, generatedParams, built, -, -⟩ := generatePpcCommand_eq_ok returns
  have synthesized := synthesized_of_generateParameters args.overrides_wellTyped generatedParams
  obtain ⟨architecture, listed⟩ := firstArchitecture_of_buildCommand built
  obtain ⟨reserved, sized⟩ := synthesized.reservedCount
  obtain ⟨rtKernel, kernel⟩ := synthesized.optionsTyped.bools "enable_rt_kernel" (by decide)
  obtain ⟨powerMode, moded⟩ := synthesized.optionsTyped.strs "power_mode" (by decide)
  obtain ⟨topologyPolicy, policed⟩ := synthesized.optionsTyped.strs "topology_policy" (by decide)
  have safeValues : ∀ value ∈ [args.mcpName, args.profileName, powerMode, topologyPolicy], SafeWord value := by
    obtain ⟨powerModes, topologyPolicies⟩ := generateParameters_strOptions generatedParams
    rw [moded] at powerModes
    rw [policed] at topologyPolicies
    simp only [Option.some.injEq, PyValue.str.injEq] at powerModes topologyPolicies
    intro value member
    simp only [List.mem_cons, List.not_mem_nil, or_false] at member
    rcases member with rfl | rfl | rfl | rfl
    · exact safeArgs _ (by simp)
    · exact safeArgs _ (by simp)
    · rcases powerModes with rfl | rfl
      · exact safeArgs _ (by simp)
      · decide
    · rcases topologyPolicies with rfl | rfl
      · exact safeArgs _ (by simp)
      · decide
  rw [buildCommand_eq_rendered listed synthesized.mcpNamed synthesized.profileNamed sized kernel moded policed,
    Except.ok.injEq] at built
  rw [← built, tokenize_rendered (by simp [commandArguments])
      (commandArguments_safe reserved rtKernel (by simpa using safePath) safeValues (switchFlags_safe _)),
    Option.some_bind, simpleCommand_words_redirect _ (by decide)]
  exact ⟨_, rfl⟩

/-- On a POSIX shell, every run of a command that `generate_ppc_command` returned for safe words
that the shell starts leaves a file `performance-profile.yaml` in the working directory, and
`create_performance_profile` fails with the files as the shell left them, or reports success with
an empty `profile_yaml` and saves an empty file at `output_path` over them. -/
theorem createPerformanceProfile_saves_empty_profile {state : ServerState} {args : GeneratePpcCommandArgs}
    {generated : GeneratedCommand} (returns : generatePpcCommand state args = .ok generated)
    (safePath : state.mustGatherPath.all (·.toList.all safeChar) = true)
    (safeArgs : ∀ value ∈ [args.mcpName, args.profileName, args.powerMode, args.topologyPolicy], SafeWord value)
    {host : Host} (posix : host.RedirectsStandardOutput) (files : Files) (outputPath : String) :
    ((∀ message, (host.runShell generated.command files).1 ≠ .raised message) →
        ((host.runShell generated.command files).2 (host.absolute "performance-profile.yaml")).isSome) ∧
      ((∃ error, createPerformanceProfile host files generated.command outputPath =
          (.failure error, (host.runShell generated.command files).2)) ∨
        createPerformanceProfile host files generated.command outputPath =
          (.success outputPath "" ("Performance profile created successfully at " ++ outputPath),
            writeFile (host.runShell generated.command files).2 (host.absolute outputPath) "")) := by
  obtain ⟨words, redirected⟩ := generatePpcCommand_redirected returns safePath safeArgs
  refine ⟨posix.createsTarget _ words _ files redirected, ?_⟩
  rcases createPerformanceProfile_cases host files generated.command outputPath with
    failed | ⟨stdout, stderr, ran, -, created⟩
  · exact .inl failed
  · obtain rfl := posix.capturesNothing _ words _ files redirected 0 stdout stderr ran
    exact .inr created

/-- A host whose shell, on a simple command redirected to a file, writes a profile to that file
and prints nothing, prints a profile for any other command, and where every file opens. -/
def posixHost : Host where
  workingDirectory := "/app"
  runShell command files :=
    match (tokenize command).bind simpleCommand with
    | some ⟨_, [⟨none, ">", target⟩]⟩ =>
      (.completed 0 "" "", writeFile files (underDirectory "/app" target) "apiVersion: performance.openshift.io/v2")
    | _ => (.completed 0 "apiVersion: performance.openshift.io/v2" "", files)
  openError _ _ := none

theorem posixHost_redirects : posixHost.RedirectsStandardOutput where
  capturesNothing command words target files parsed returncode stdout stderr ran := by
    simp only [posixHost, parsed, RunOutcome.completed.injEq] at ran
    exact ran.2.1.symm
  createsTarget command words target files parsed _ := by
    simp [posixHost, parsed, Host.absolute]

theorem createPerformanceProfile_saves_empty_profile_on_sample :
    ∃ generated, generatePpcCommand (analyzeClusterHardware sampleEnvironment .initial "/must-gather").2 ranCall =
        .ok generated ∧
      ((∀ message, (posixHost.runShell generated.command fun _ => none).1 ≠ .raised message) →
          ((posixHost.runShell generated.command fun _ => none).2 (posixHost.absolute "performance-profile.yaml")).isSome) ∧
        ((∃ error, createPerformanceProfile posixHost (fun _ => none) generated.command "/tmp/performance-profile.yaml" =
            (.failure error, (posixHost.runShell generated.command fun _ => none).2)) ∨
          createPerformanceProfile posixHost (fun _ => none) generated.command "/tmp/performance-profile.yaml" =
            (.success "/tmp/performance-profile.yaml" ""
                ("Performance profile created successfully at " ++ "/tmp/performance-profile.yaml"),
              writeFile (posixHost.runShell generated.command fun _ => none).2
                (posixHost.absolute "/tmp/performance-profile.yaml") "")) :=
  ⟨_, rfl, @createPerformanceProfile_saves_empty_profile (analyzeClusterHardware sampleEnvironment .initial "/must-gather").2
    ranCall _ rfl (by decide) (by decide) posixHost posixHost_redirects _ _⟩

end ProfileCreator.McpServer
