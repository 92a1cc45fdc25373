import ImageRecipe.Yaml.Source

/-!
White space inside a scalar that goes over several lines. Within a line it counts as it stands.
Across a line break it is folded: the break becomes a space, or nothing if empty lines follow, of
which each gives a line feed.
-/
namespace ImageRecipe.Yaml

structure Spacing where
  gaps : List Char
  breaks : List Char
deriving DecidableEq, Repr

def Spacing.empty : Spacing := ⟨[], []⟩

/-- What the white space stands for. A line or paragraph separator is never folded away. -/
def Spacing.folded (s : Spacing) : List Char :=
  match s.breaks with
  | [] => s.gaps
  | ['\n'] => [' ']
  | '\n' :: more => more
  | breaks => breaks

/-- The white space from here on. Behind a line break, gaps are dropped, and a tab is refused in a
column left of `indent`. -/
def Source.spacing (indent : Nat) (behindBreak : Bool) : Source → Option (Spacing × Source)
  | [] => some (.empty, [])
  | here :: rest =>
    if isGap here.char then
      if behindBreak then
        if here.char = '\t' && here.mark.column < indent then none
        else Source.spacing indent true rest
      else
        (Source.spacing indent false rest).map fun (s, rest) =>
          ({ s with gaps := here.char :: s.gaps }, rest)
    else if isBreak here.char then
      (Source.spacing indent true rest).map fun (s, rest) =>
        ({ s with breaks := here.char :: s.breaks }, rest)
    else some (.empty, here :: rest)

end ImageRecipe.Yaml
