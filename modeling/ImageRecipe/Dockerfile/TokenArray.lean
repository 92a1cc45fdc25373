import ImageRecipe.Argument

/-!
The array form of an argument, `["a","b"]`. Tokens stand between the quotes as they are, without
any escape.
-/
namespace ImageRecipe

def tokenArray (tokens : List String) : String :=
  "[\"" ++ "\",\"".intercalate tokens ++ "\"]"

namespace Argument

def encode : Argument → String
  | shell command => command
  | exec tokens => tokenArray tokens

def encodeTokens (a : Argument) : String := tokenArray a.tokens

end Argument

end ImageRecipe
