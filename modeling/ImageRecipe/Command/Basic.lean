import ImageRecipe.Config.Reading
import ImageRecipe.Dockerfile.Rendering
import ImageRecipe.Files

namespace ImageRecipe

inductive Command where
  /-- Makes the Dockerfile of a configuration and prints it, or writes it into a directory. -/
  | generate (config outputDir : Option String)
  /-- Checks a configuration as far as its Dockerfile. -/
  | validate (config : Option String)
deriving DecidableEq, Repr

namespace Command

def configPath : Command → String
  | generate config _ => config.getD Config.fileName
  | validate config => config.getD Config.fileName

def dockerfilePath (dir : String) : String := pathIn dir Recipe.dockerfileName

end Command

def TextError.message : TextError → String
  | notYaml => "the text is not one YAML document"
  | notReadable error => error.message

inductive Failure where
  | unreadable (path : String) (refusal : Refusal)
  | notLoaded (path : String) (error : TextError)
  | faulty (fault : Fault)
  | unwritable (path : String) (refusal : Refusal)
deriving DecidableEq, Repr

namespace Failure

/-- What failed and why, the outermost message first. -/
def chain : Failure → List String
  | unreadable path refusal => ["Failed to read " ++ path, refusal.message]
  | notLoaded path error => ["Failed to deserialize " ++ path, error.message]
  | faulty fault => [fault.message]
  | unwritable path refusal => ["Failed to write " ++ path, refusal.message]

end Failure

end ImageRecipe
