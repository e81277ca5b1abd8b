import ProfileCreator.Python.Path
import ProfileCreator.Server.Runs

/-! # Path mappings

At module load `_init_path_mappings` reads the mappings from host paths to container paths, and
`analyze_cluster_hardware` passes every path through `resolve_path` before it opens the bundle.

* `initPathMappings` — the three methods in order: the JSON list `MCP_PATH_MAPPINGS`, the
  variables `MCP_PATH_MAP_0`, `MCP_PATH_MAP_1`, … up to the first one that is unset or empty,
  each with a colon giving one mapping, split at its first colon (`variableMappings_spec`),
  and, in a container with neither, the common mounts that exist, each with an empty host path.
* `resolvePath` — the first mapping whose resolved host path contains the resolved input
  maps it into the container path. A changed path lies under that container path at the
  place the input lies under the host path (`resolvePath_mapped`), and a mapping with an empty
  host path never changes a path: without explicit mappings `resolve_path` returns its input,
  or raises what `Path.resolve` raises on it (`initPathMappings_auto_identity`).
* `configuredEnvironment` — the server's environment under the mappings, and what a whole run
  stores (`run_storedPath_mounted`).

The file system is an argument: `os.path.exists`, `os.path.realpath`, and the paths whose `stat`
meets a loop of symbolic links; `json.loads` is given by its outcome.
-/

namespace ProfileCreator.McpServer

open ProfileCreator.Python ProfileCreator.MustGatherParser

/-- Loaded values are inhabited, which spares the proofs below failing searches for `Nonempty Yaml`. -/
scoped instance : Inhabited Yaml := ⟨.null⟩

/-- What the path code reads of the host: `os.path.exists`, `os.path.realpath`, and whether `stat`
of a path fails with `ELOOP`, on a loop of symbolic links. -/
structure FileSystem where
  pathExists : String → Bool
  realPath : String → String
  symlinkLoop : String → Bool

/-- `Path(text).resolve()`: the real path of `str(Path(text))`, parsed again. `os.lstat` raises
`ValueError` on a NUL byte, and pathlib turns an `ELOOP` of its closing `stat` into
`RuntimeError`. -/
def FileSystem.resolve (fs : FileSystem) (text : String) : Except PyError PurePath :=
  let rendered := render (parsePath text)
  if '\x00' ∈ rendered.toList then .error (.valueError "embedded null byte")
  else if fs.symlinkLoop (fs.realPath rendered) then
    .error (.runtimeError ("Symlink loop from " ++ pyRepr (fs.realPath rendered)))
  else .ok (parsePath (fs.realPath rendered))

/-- A container file system where only `/.dockerenv` and `/must-gather` exist and no path is a
link. -/
def containerFileSystem : FileSystem :=
  ⟨fun path => path = "/.dockerenv" || path = "/must-gather", id, fun _ => false⟩

/-! ## `resolve_path` -/

/-- `Path(value)`: only a string is a path argument. -/
def pathArgument : Yaml → Except PyError String
  | .str text => .ok text
  | other => .error (.typeError ("expected str, bytes or os.PathLike object, not " ++ other.typeName))

/-- `text.startswith(value)`: only a string is a prefix. -/
def startsWithArgument (text : String) : Yaml → Except PyError Bool
  | .str leading => .ok (startsWith text leading)
  | other => .error (.typeError ("startswith first arg must be str or a tuple of str, not " ++ other.typeName))

/-- The loop of `resolve_path` over the mappings, given the input and its resolved path. When no
mapping applies the input is returned, whether or not it exists. -/
def resolveMappings (fs : FileSystem) (inputPath : String) (inputPathObj : PurePath) :
    List (Yaml × Yaml) → Except PyError String
  | [] => .ok inputPath
  | (hostPath, containerPath) :: rest =>
    if !hostPath.truthy then do
      let matched ← startsWithArgument (render inputPathObj) containerPath
      if matched then .ok inputPath else resolveMappings fs inputPath inputPathObj rest
    else do
      let host ← pathArgument hostPath
      let hostPathObj ← fs.resolve host
      match inputPathObj.relativeTo hostPathObj with
      | none => resolveMappings fs inputPath inputPathObj rest
      | some relPath => do
        let container ← pathArgument containerPath
        pure (render ((parsePath container).join relPath))

/-- `resolve_path(input_path)` under `_path_mappings`. -/
def resolvePath (fs : FileSystem) (pathMappings : List (Yaml × Yaml)) (inputPath : String) :
    Except PyError String :=
  if pathMappings.isEmpty then .ok inputPath
  else do
    let inputPathObj ← fs.resolve inputPath
    resolveMappings fs inputPath inputPathObj pathMappings

/-- What a host mapping makes of an input resolved to `inputPathObj`: `str(Path(container) / rel)`,
where `rel` is the input's place under the resolved host path. -/
def MappedBy (fs : FileSystem) (pathMappings : List (Yaml × Yaml)) (inputPathObj : PurePath) (result : String) :
    Prop :=
  ∃ host container hostPathObj relPath, (.str host, .str container) ∈ pathMappings ∧ host ≠ "" ∧
    fs.resolve host = .ok hostPathObj ∧ inputPathObj.relativeTo hostPathObj = some relPath ∧
    result = render ((parsePath container).join relPath)

theorem pathArgument_eq_ok {value : Yaml} {text : String} : pathArgument value = .ok text ↔ value = .str text := by
  cases value <;> simp [pathArgument]

theorem truthy_of_pathArgument {hostPath : Yaml} {host : String} (truthy : hostPath.truthy = true)
    (argument : pathArgument hostPath = .ok host) : hostPath = .str host ∧ host ≠ "" := by
  obtain rfl := pathArgument_eq_ok.mp argument
  simpa using truthy

/-- The loop returns the input, or maps it by the first host mapping that contains it. -/
theorem resolveMappings_cases (fs : FileSystem) (inputPath : String) (inputPathObj : PurePath) :
    ∀ {pathMappings : List (Yaml × Yaml)} {result : String},
      resolveMappings fs inputPath inputPathObj pathMappings = .ok result →
        result = inputPath ∨ MappedBy fs pathMappings inputPathObj result
  | [], _, returns => .inl (Except.ok.inj returns).symm
  | (hostPath, containerPath) :: rest, result, returns => by
    have later : MappedBy fs rest inputPathObj result → MappedBy fs ((hostPath, containerPath) :: rest) inputPathObj result :=
      fun ⟨host, container, hostPathObj, relPath, member, named⟩ =>
        ⟨host, container, hostPathObj, relPath, List.mem_cons_of_mem _ member, named⟩
    unfold resolveMappings at returns
    split at returns
    · obtain ⟨matched, -, continued⟩ := bind_eq_ok.mp returns
      split at continued
      · exact .inl (Except.ok.inj continued).symm
      · exact (resolveMappings_cases fs inputPath inputPathObj continued).imp_right later
    · next truthy =>
      obtain ⟨host, argument, continued⟩ := bind_eq_ok.mp returns
      obtain ⟨rfl, named⟩ := truthy_of_pathArgument (by simpa using truthy) argument
      obtain ⟨hostPathObj, hostResolved, continued⟩ := bind_eq_ok.mp continued
      split at continued
      · exact (resolveMappings_cases fs inputPath inputPathObj continued).imp_right later
      · next relPath within =>
        obtain ⟨container, containerArgument, mapped⟩ := bind_eq_ok.mp continued
        obtain rfl := pathArgument_eq_ok.mp containerArgument
        exact .inr ⟨host, container, hostPathObj, relPath, List.mem_cons_self _ _, named, hostResolved, within,
          (Except.ok.inj mapped).symm⟩

theorem resolvePath_cases {fs : FileSystem} {pathMappings : List (Yaml × Yaml)} {inputPath result : String}
    (returns : resolvePath fs pathMappings inputPath = .ok result) :
    result = inputPath ∨ ∃ inputPathObj, fs.resolve inputPath = .ok inputPathObj ∧
      MappedBy fs pathMappings inputPathObj result := by
  unfold resolvePath at returns
  split at returns
  · exact .inl (Except.ok.inj returns).symm
  · obtain ⟨inputPathObj, resolved, continued⟩ := bind_eq_ok.mp returns
    exact (resolveMappings_cases fs inputPath inputPathObj continued).imp_right fun mapped =>
      ⟨inputPathObj, resolved, mapped⟩

/-- A mapped path read back as a path lies under the container path, at the place the input had
under the host path. -/
theorem MappedBy.under_container {fs : FileSystem} {pathMappings : List (Yaml × Yaml)} {inputPathObj : PurePath}
    {result : String} (mapped : MappedBy fs pathMappings inputPathObj result) :
    ∃ host container hostPathObj relPath, (.str host, .str container) ∈ pathMappings ∧ host ≠ "" ∧
      fs.resolve host = .ok hostPathObj ∧ inputPathObj.relativeTo hostPathObj = some relPath ∧
      (parsePath result).relativeTo (parsePath container) = some relPath := by
  obtain ⟨host, container, hostPathObj, relPath, member, named, hostResolved, within, rfl⟩ := mapped
  have relative := (PurePath.relativeTo_eq_some.mp within).2.2.1
  exact ⟨host, container, hostPathObj, relPath, member, named, hostResolved, within,
    by rw [parsePath_render, PurePath.relativeTo_join relative]⟩

/-- `resolve_path` returns its input, or a path under the container path of a mapping whose host
path contains the input, at the same place: the first such mapping's. -/
theorem resolvePath_mapped {fs : FileSystem} {pathMappings : List (Yaml × Yaml)} {inputPath result : String}
    (returns : resolvePath fs pathMappings inputPath = .ok result) :
    result = inputPath ∨
      ∃ host container inputPathObj hostPathObj relPath, (.str host, .str container) ∈ pathMappings ∧ host ≠ "" ∧
        fs.resolve inputPath = .ok inputPathObj ∧ fs.resolve host = .ok hostPathObj ∧
        inputPathObj.relativeTo hostPathObj = some relPath ∧
        (parsePath result).relativeTo (parsePath container) = some relPath := by
  refine (resolvePath_cases returns).imp_right fun ⟨inputPathObj, resolved, mapped⟩ => ?_
  obtain ⟨host, container, hostPathObj, relPath, member, named, hostResolved, within, under⟩ := mapped.under_container
  exact ⟨host, container, inputPathObj, hostPathObj, relPath, member, named, resolved, hostResolved, within, under⟩

theorem resolvePath_mapped_on_host_path :
    resolvePath containerFileSystem [(.str "/home/user/mg", .str "/must-gather")] "/home/user/mg/cluster-a" =
        .ok "/must-gather/cluster-a" ∧
      ("/must-gather/cluster-a" = "/home/user/mg/cluster-a" ∨
        ∃ host container inputPathObj hostPathObj relPath,
          (.str host, .str container) ∈ [(Yaml.str "/home/user/mg", Yaml.str "/must-gather")] ∧ host ≠ "" ∧
          containerFileSystem.resolve "/home/user/mg/cluster-a" = .ok inputPathObj ∧
          containerFileSystem.resolve host = .ok hostPathObj ∧ inputPathObj.relativeTo hostPathObj = some relPath ∧
          (parsePath "/must-gather/cluster-a").relativeTo (parsePath container) = some relPath) :=
  ⟨rfl, resolvePath_mapped rfl⟩

/-- A mapping with an empty host path and a string container path never changes a path. -/
theorem resolveMappings_of_emptyHosts (fs : FileSystem) (inputPath : String) (inputPathObj : PurePath) :
    ∀ {pathMappings : List (Yaml × Yaml)}, (∀ entry ∈ pathMappings, ∃ container, entry = (.str "", .str container)) →
      resolveMappings fs inputPath inputPathObj pathMappings = .ok inputPath
  | [], _ => rfl
  | _ :: rest, emptyHosts => by
    obtain ⟨container, rfl⟩ := emptyHosts _ (List.mem_cons_self _ _)
    have continued := resolveMappings_of_emptyHosts fs inputPath inputPathObj fun entry member =>
      emptyHosts entry (List.mem_cons_of_mem _ member)
    simp only [resolveMappings, Yaml.truthy_str, bne_self_eq_false, Bool.not_false, if_true, startsWithArgument, bind,
      Except.bind]
    split <;> simp [continued]

/-! ## `_init_path_mappings` -/

/-- What `_init_path_mappings` reads of the environment: `MCP_PATH_MAPPINGS`, what `json.loads`
makes of a text (`none` where it raises `JSONDecodeError`), and the values of `MCP_PATH_MAP_0`,
`MCP_PATH_MAP_1`, … up to the first one that is unset. -/
structure StartupEnvironment where
  pathMappings : Option String
  decodeJson : String → Option Yaml
  mapVariables : List String

/-- The loop over the decoded list: each item of length two gives the pair of its first two
items. -/
def collectPairs : List Yaml → Except PyError (List (Yaml × Yaml))
  | [] => .ok []
  | mapping :: rest => do
    let length ← mapping.pyLen
    if length = 2 then
      let first ← mapping.pyIndex 0
      let second ← mapping.pyIndex 1
      let pairs ← collectPairs rest
      pure ((first, second) :: pairs)
    else collectPairs rest

/-- Method 1: a value that is not JSON is reported and skipped; only `JSONDecodeError` is
caught, so any other exception escapes. -/
def jsonMappings (env : StartupEnvironment) : Except PyError (List (Yaml × Yaml)) :=
  match env.pathMappings with
  | some text =>
    if text = "" then .ok []
    else
      match env.decodeJson text with
      | some mappings => do collectPairs (← mappings.iterate)
      | none => .ok []
  | none => .ok []

/-- `mapping.split(':', 1)` unpacked into two names: `none` where the unpacking raises
`ValueError`, for a value without a colon. -/
def splitMapping (mapping : String) : Option (String × String) :=
  match mapping.toList.dropWhile (· != ':') with
  | _ :: container => some (⟨mapping.toList.takeWhile (· != ':')⟩, ⟨container⟩)
  | [] => none

/-- Method 2: the loop stops at the first empty variable and skips one without a colon. -/
def variableMappings : List String → List (Yaml × Yaml)
  | [] => []
  | mapping :: rest =>
    if mapping.isEmpty then []
    else
      match splitMapping mapping with
      | some (host, container) => (.str host, .str container) :: variableMappings rest
      | none => variableMappings rest

/-- The mounts method 3 looks for. -/
def commonMounts : List String := ["/must-gather", "/data", "/workspace"]

/-- Method 3: each common mount that exists, with an empty host path. -/
def autoMappings (fs : FileSystem) : List (Yaml × Yaml) :=
  (commonMounts.filter fs.pathExists).map fun containerPath => (.str "", .str containerPath)

/-- The mappings of methods 1 and 2, in that order. -/
def explicitMappings (env : StartupEnvironment) : Except PyError (List (Yaml × Yaml)) := do
  let fromJson ← jsonMappings env
  pure (fromJson ++ variableMappings env.mapVariables)

/-- `_init_path_mappings()` on the empty `_path_mappings` of module load; an exception stops the
module from loading. -/
def initPathMappings (env : StartupEnvironment) (fs : FileSystem) : Except PyError (List (Yaml × Yaml)) := do
  let inContainer := fs.pathExists "/.dockerenv" || fs.pathExists "/run/.containerenv"
  let explicit ← explicitMappings env
  pure (if inContainer && explicit.isEmpty then autoMappings fs else explicit)

/-- Splitting at the first colon gives the text before it, which holds no colon, and the text
after it. -/
theorem splitMapping_eq_some {mapping host container : String} :
    splitMapping mapping = some (host, container) ↔
      mapping.toList = host.toList ++ ':' :: container.toList ∧ ':' ∉ host.toList := by
  constructor
  · intro split
    unfold splitMapping at split
    split at split
    · next colon rest dropped =>
      cases split
      have isColon : colon = ':' := by
        have notKept := List.head?_dropWhile_not (· != ':') mapping.toList
        rw [dropped] at notKept
        simpa using notKept
      have whole := List.takeWhile_append_dropWhile (· != ':') mapping.toList
      rw [dropped, isColon] at whole
      exact ⟨whole.symm, fun inHost => by simpa using List.mem_takeWhile_imp inHost⟩
    · cases split
  · rintro ⟨spelled, noColon⟩
    have before : ∀ c ∈ host.toList, (c != ':') = true := fun c member => by
      rw [bne_iff_ne]
      rintro rfl
      exact noColon member
    unfold splitMapping
    rw [spelled, List.dropWhile_append_of_pos before, List.takeWhile_append_of_pos before]
    simp

/-- Method 2 as a list: the variables before the first empty one, each split, the ones without a
colon dropped. -/
theorem variableMappings_eq : ∀ mapVariables : List String,
    variableMappings mapVariables =
      ((mapVariables.takeWhile (!·.isEmpty)).filterMap splitMapping).map (fun split => (.str split.1, .str split.2))
  | [] => rfl
  | mapping :: rest => by
    by_cases empty : mapping.isEmpty
    · simp [variableMappings, empty]
    · rw [List.takeWhile_cons_of_pos (by simpa using empty)]
      simp only [variableMappings, empty, Bool.false_eq_true, if_false, variableMappings_eq rest, List.filterMap_cons]
      cases splitMapping mapping <;> rfl

/-- A value without a colon gives no mapping. -/
theorem splitMapping_eq_none {mapping : String} : splitMapping mapping = none ↔ ':' ∉ mapping.toList := by
  have noColon : mapping.toList.dropWhile (· != ':') = [] ↔ ':' ∉ mapping.toList := by
    rw [List.dropWhile_eq_nil_iff]
    exact ⟨fun kept colon => by simpa using kept _ colon, fun absent c member => bne_iff_ne.mpr fun same =>
      absent (same ▸ member)⟩
  rw [← noColon]
  unfold splitMapping
  split <;> rename_i dropped <;> simp only [dropped, reduceCtorEq, iff_self]

/-- Method 2 maps the variables before the first empty one, in order, one mapping for each that
holds a colon, split at its first colon. -/
theorem variableMappings_spec (mapVariables : List String) :
    variableMappings mapVariables =
        ((mapVariables.takeWhile (!·.isEmpty)).filterMap splitMapping).map (fun split => (.str split.1, .str split.2)) ∧
      (∀ mapping, splitMapping mapping = none ↔ ':' ∉ mapping.toList) ∧
      ∀ mapping host container, splitMapping mapping = some (host, container) ↔
        mapping.toList = host.toList ++ ':' :: container.toList ∧ ':' ∉ host.toList :=
  ⟨variableMappings_eq mapVariables, fun _ => splitMapping_eq_none, fun _ _ _ => splitMapping_eq_some⟩

theorem autoMappings_emptyHosts (fs : FileSystem) :
    ∀ entry ∈ autoMappings fs, ∃ container, entry = (.str "", .str container) := by
  intro entry member
  obtain ⟨container, -, rfl⟩ := List.mem_map.mp member
  exact ⟨container, rfl⟩

/-- Without a mapping from methods 1 and 2, `resolve_path` returns every path as it is given, or
raises what `Path(input_path).resolve()` raises on it: the common mounts detected in a container
have empty host paths. -/
theorem initPathMappings_auto_identity {env : StartupEnvironment} {fs : FileSystem} {pathMappings : List (Yaml × Yaml)}
    (noExplicit : explicitMappings env = .ok []) (loaded : initPathMappings env fs = .ok pathMappings)
    (inputPath : String) :
    resolvePath fs pathMappings inputPath = .ok inputPath ∨
      ∃ error, fs.resolve inputPath = .error error ∧ resolvePath fs pathMappings inputPath = .error error := by
  simp only [initPathMappings, noExplicit, bind, Except.bind, pure, Except.pure, Except.ok.injEq, List.isEmpty_nil,
    Bool.and_true] at loaded
  have emptyHosts : ∀ entry ∈ pathMappings, ∃ container, entry = (.str "", .str container) := by
    subst loaded
    split
    · exact autoMappings_emptyHosts fs
    · simp
  unfold resolvePath
  split
  · exact .inl rfl
  · cases resolved : fs.resolve inputPath with
    | error error => exact .inr ⟨error, rfl, rfl⟩
    | ok inputPathObj => exact .inl (resolveMappings_of_emptyHosts fs inputPath inputPathObj emptyHosts)

/-- A container with `/must-gather` mounted and no mapping variables. -/
def mountedStartup : StartupEnvironment := ⟨none, fun _ => none, []⟩

theorem initPathMappings_auto_identity_on_mount :
    explicitMappings mountedStartup = .ok [] ∧
      initPathMappings mountedStartup containerFileSystem = .ok [(.str "", .str "/must-gather")] ∧
      (resolvePath containerFileSystem [(.str "", .str "/must-gather")] "/home/user/must-gather" =
          .ok "/home/user/must-gather" ∨
        ∃ error, containerFileSystem.resolve "/home/user/must-gather" = .error error ∧
          resolvePath containerFileSystem [(.str "", .str "/must-gather")] "/home/user/must-gather" = .error error) :=
  ⟨rfl, rfl, @initPathMappings_auto_identity mountedStartup containerFileSystem _ rfl rfl "/home/user/must-gather"⟩

/-- Under the auto-detected mount a path with a NUL byte makes `resolve_path` raise. -/
example : resolvePath containerFileSystem [(.str "", .str "/must-gather")] "/must-gather/a\x00b" =
    .error (.valueError "embedded null byte") := by
  decide

/-! ## The server under configured mappings -/

/-- The server's environment under the mappings `_init_path_mappings` built. -/
def configuredEnvironment (fs : FileSystem) (pathMappings : List (Yaml × Yaml)) (bundleAt : String → Option Bundle)
    (order : SetOrder) : Environment :=
  ⟨resolvePath fs pathMappings, bundleAt, order⟩

theorem storedPath_eq_some {env : Environment} {call : ToolCall} {path : String} (stored : storedPath env call = some path) :
    ∃ mustGatherPath, call = .analyzeClusterHardware mustGatherPath ∧ env.resolvePath mustGatherPath = .ok path := by
  cases call with
  | analyzeClusterHardware mustGatherPath =>
    simp only [storedPath] at stored
    split at stored
    · next resolvedPath resolved =>
      split at stored
      · cases stored
        exact ⟨mustGatherPath, rfl, resolved⟩
      · cases stored
    · cases stored
  | _ => cases stored

/-- The stored path after a run is the one before it, or the resolved path of a call of the run. -/
theorem run_storedPath (env : Environment) :
    ∀ (state : ServerState) (calls : List ToolCall),
      (run env state calls).2.mustGatherPath = state.mustGatherPath ∨
        ∃ mustGatherPath resolvedPath, ToolCall.analyzeClusterHardware mustGatherPath ∈ calls ∧
          env.resolvePath mustGatherPath = .ok resolvedPath ∧ (run env state calls).2.mustGatherPath = some resolvedPath
  | _, [] => .inl rfl
  | state, call :: rest => by
    have final : (run env state (call :: rest)).2 = (run env (handle env state call).2 rest).2 := rfl
    rw [final]
    rcases run_storedPath env (handle env state call).2 rest with
      unchanged | ⟨mustGatherPath, resolvedPath, member, resolved, stored⟩
    · rw [unchanged, handle_state]
      cases analysed : storedPath env call with
      | none => exact .inl rfl
      | some path =>
        obtain ⟨mustGatherPath, rfl, resolved⟩ := storedPath_eq_some analysed
        exact .inr ⟨mustGatherPath, path, List.mem_cons_self _ _, resolved, rfl⟩
    · exact .inr ⟨mustGatherPath, resolvedPath, List.mem_cons_of_mem _ member, resolved, stored⟩

/-- Whatever a run from start-up stores is a path a call passed, or lies under the container path
of a mapping whose host path contains a path a call passed, at the same place: the bundle the
generator mounts is the one the client named. -/
theorem run_storedPath_mounted (fs : FileSystem) (pathMappings : List (Yaml × Yaml))
    (bundleAt : String → Option Bundle) (order : SetOrder) (calls : List ToolCall) {stored : String}
    (storedSome : (run (configuredEnvironment fs pathMappings bundleAt order) .initial calls).2.mustGatherPath = some stored) :
    ∃ mustGatherPath, ToolCall.analyzeClusterHardware mustGatherPath ∈ calls ∧
      (stored = mustGatherPath ∨
        ∃ host container inputPathObj hostPathObj relPath, (.str host, .str container) ∈ pathMappings ∧ host ≠ "" ∧
          fs.resolve mustGatherPath = .ok inputPathObj ∧ fs.resolve host = .ok hostPathObj ∧
          inputPathObj.relativeTo hostPathObj = some relPath ∧
          (parsePath stored).relativeTo (parsePath container) = some relPath) := by
  rcases run_storedPath (configuredEnvironment fs pathMappings bundleAt order) .initial calls with
    unchanged | ⟨mustGatherPath, resolvedPath, member, resolved, stored⟩
  · rw [unchanged] at storedSome
    cases storedSome
  · rw [stored, Option.some.injEq] at storedSome
    subst storedSome
    refine ⟨mustGatherPath, member, (resolvePath_cases resolved).imp_right fun ⟨inputPathObj, inputResolved, mapped⟩ => ?_⟩
    obtain ⟨host, container, hostPathObj, relPath, member, named, hostResolved, within, under⟩ := mapped.under_container
    exact ⟨host, container, inputPathObj, hostPathObj, relPath, member, named, inputResolved, hostResolved, within, under⟩

/-- One mapping of a host directory onto `/must-gather`. -/
def hostMappings : List (Yaml × Yaml) := [(.str "/home/user/mg", .str "/must-gather")]

theorem run_storedPath_mounted_on_host_path :
    (run (configuredEnvironment containerFileSystem hostMappings sampleEnvironment.bundleAt SetOrder.insertion) .initial
        [.analyzeClusterHardware "/home/user/mg/cluster-a"]).2.mustGatherPath = some "/must-gather/cluster-a" ∧
      ∃ mustGatherPath, ToolCall.analyzeClusterHardware mustGatherPath ∈ [.analyzeClusterHardware "/home/user/mg/cluster-a"] ∧
        ("/must-gather/cluster-a" = mustGatherPath ∨
          ∃ host container inputPathObj hostPathObj relPath, (.str host, .str container) ∈ hostMappings ∧ host ≠ "" ∧
            containerFileSystem.resolve mustGatherPath = .ok inputPathObj ∧
            containerFileSystem.resolve host = .ok hostPathObj ∧ inputPathObj.relativeTo hostPathObj = some relPath ∧
            (parsePath "/must-gather/cluster-a").relativeTo (parsePath container) = some relPath) :=
  ⟨rfl, run_storedPath_mounted containerFileSystem hostMappings sampleEnvironment.bundleAt SetOrder.insertion _ rfl⟩

end ProfileCreator.McpServer
