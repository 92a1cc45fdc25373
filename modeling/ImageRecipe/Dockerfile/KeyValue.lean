/-!
The tokens `key=value` of `ENV` and `LABEL`. A value stands between double quotes if it is empty
or holds a space, a double quote, a backslash or a newline, and the last three get a backslash
before them. The key is written as it is.
-/
namespace ImageRecipe.KeyValue

def isEscaped (c : Char) : Bool :=
  c = '"' || c = '\\' || c = '\n'

def isQuoted (c : Char) : Bool :=
  c = ' ' || isEscaped c

def escape (value : List Char) : List Char :=
  value.flatMap fun c => if isEscaped c then ['\\', c] else [c]

def encode (value : List Char) : List Char :=
  if value.isEmpty || value.any isQuoted then '"' :: escape value ++ ['"'] else value

def token (key value : String) : String :=
  key ++ "=" ++ String.ofList (encode value.toList)

def tokens (entries : List (String × String)) : List String :=
  entries.map fun entry => token entry.1 entry.2

end ImageRecipe.KeyValue
