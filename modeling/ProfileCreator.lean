import ProfileCreator.Python.Unicode
import ProfileCreator.Python.Builtins
import ProfileCreator.Python.Double
import ProfileCreator.Python.Dict
import ProfileCreator.Python.Yaml
import ProfileCreator.Python.Path
import ProfileCreator.Hardware.Topology
import ProfileCreator.MustGather.Parser
import ProfileCreator.MustGather.Summary
import ProfileCreator.MustGather.WellFormed
import ProfileCreator.Validator.Checks
import ProfileCreator.Validator.Validate
import ProfileCreator.Validator.Soundness
import ProfileCreator.Templates.Catalog
import ProfileCreator.Generator.Synthesis
import ProfileCreator.Generator.Resolution
import ProfileCreator.Generator.Properties
import ProfileCreator.Generator.Command
import ProfileCreator.Generator.Reads
import ProfileCreator.Server.Tools
import ProfileCreator.Shell.Lexer
import ProfileCreator.Generator.Rendering
import ProfileCreator.Generator.Explanation
import ProfileCreator.Server.Classification
import ProfileCreator.Server.Runs
import ProfileCreator.Server.PathMappings
import ProfileCreator.Server.ProfileCreation
import ProfileCreator.Server.Workflow
