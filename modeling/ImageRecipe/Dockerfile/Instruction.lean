namespace ImageRecipe

inductive Keyword where
  | image
  | maintainer
  | env
  | label
  | expose
  | copy
  | user
  | workdir
  | shell
  | run
  | volume
  | healthcheck
  | cmd
  | entrypoint
deriving DecidableEq, Repr

def Keyword.text : Keyword → String
  | image => "FROM"
  | maintainer => "MAINTAINER"
  | env => "ENV"
  | label => "LABEL"
  | expose => "EXPOSE"
  | copy => "COPY"
  | user => "USER"
  | workdir => "WORKDIR"
  | shell => "SHELL"
  | run => "RUN"
  | volume => "VOLUME"
  | healthcheck => "HEALTHCHECK"
  | cmd => "CMD"
  | entrypoint => "ENTRYPOINT"

structure Instruction where
  keyword : Keyword
  args : List String
deriving DecidableEq, Repr

/-- The instruction without the end of its line, as it stands inside another one. -/
def Instruction.inline (i : Instruction) : String :=
  " ".intercalate (i.keyword.text :: i.args)

def Instruction.line (i : Instruction) : String := i.inline ++ "\n"

def dockerfileText (instructions : List Instruction) : String :=
  String.join (instructions.map Instruction.line)

end ImageRecipe
