import ImageRecipe.Text.Quoted
import ImageRecipe.Decimal.Shortest
import ImageRecipe.Dockerfile.Rendering
import ImageRecipe.Config.Recipe
import ImageRecipe.Yaml.Plain
import ImageRecipe.Yaml.Quoted
import ImageRecipe.Yaml.Block
import ImageRecipe.Yaml.Property
import ImageRecipe.Yaml.Lexemes
import ImageRecipe.Yaml.Document
import ImageRecipe.Yaml.Reader
import ImageRecipe.Config.Reading
import ImageRecipe.Config.Data
import ImageRecipe.Log.Filter
import ImageRecipe.Files
import ImageRecipe.Command.Running
import ImageRecipe.CommandLine.Invocation
import ImageRecipe.Main
import ImageRecipe.Proofs.Text.Cutting
import ImageRecipe.Proofs.Dockerfile.Layout
import ImageRecipe.Proofs.Dockerfile.Lines
import ImageRecipe.Proofs.BaseDir
import ImageRecipe.Proofs.Recipe.Step
import ImageRecipe.Proofs.Recipe.WellFormed
import ImageRecipe.Proofs.Config.Building
import ImageRecipe.Proofs.Config.Entries
import ImageRecipe.Proofs.Text.Lowercase
import ImageRecipe.Proofs.Port
import ImageRecipe.Proofs.Yaml.Reading
import ImageRecipe.Proofs.Config.Checks
import ImageRecipe.Proofs.Config.Reading
import ImageRecipe.Proofs.Config.Recipe
import ImageRecipe.Proofs.Config.Faults
import ImageRecipe.Proofs.Config.Padding
import ImageRecipe.Proofs.Config.Blame
import ImageRecipe.Proofs.Files
import ImageRecipe.Proofs.Command.Running
import ImageRecipe.Proofs.Config.Landing
import ImageRecipe.Proofs.Recipe.Independence
import ImageRecipe.Proofs.Config.EngineInputs
import ImageRecipe.Proofs.OrderedMap
import ImageRecipe.Proofs.Recipe.Environment
import ImageRecipe.Proofs.Config.RoundTrip
import ImageRecipe.Proofs.Dockerfile.TokenArray
import ImageRecipe.Proofs.Dockerfile.Quoting
import ImageRecipe.Proofs.Dockerfile.Volumes
import ImageRecipe.Proofs.Dockerfile.Ownership
import ImageRecipe.Proofs.Dockerfile.Variation
import ImageRecipe.Proofs.Dockerfile.Layers
import ImageRecipe.Proofs.Dockerfile.BaseImage
import ImageRecipe.Proofs.Dockerfile.Probing
