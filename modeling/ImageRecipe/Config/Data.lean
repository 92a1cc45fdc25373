import ImageRecipe.Config.Reading
import ImageRecipe.Data

/-!
Configurations as plain data. What is unset or empty is left out, except that a map of arguments
for the build engine and an extended image reference stay when they are empty, and a missing value
in environment or labels stays as null.
-/
namespace ImageRecipe

def OrderedMap.data {α : Type} (value : α → Data) (m : OrderedMap α) : Data :=
  .map (m.toList.map fun entry => (entry.1, value entry.2))

def Data.textOrNull : Option String → Data
  | some s => .text s
  | none => .null

def Data.unlessEmpty {α : Type} (value : α → Data) (items : List α) : Option Data :=
  if items.isEmpty then none else some (.list (items.map value))

def Argument.Draft.data : Argument.Draft → Data
  | .plain command => .text command
  | .forms command tokens =>
    .compact [("shell", command.map .text), ("exec", tokens.map .texts)]

def Argument.data (a : Argument) : Data := a.draft.data

def HealthCheck.Draft.data (d : HealthCheck.Draft) : Data :=
  .compact
    [("mode", d.mode.map .text), ("interval", d.interval.map .text),
     ("timeout", d.timeout.map .text), ("start-period", d.startPeriod.map .text),
     ("retries", d.retries.map .number), ("cmd", d.command.map Argument.data)]

def HealthCheck.data (h : HealthCheck) : Data := h.draft.data

def CopyEntry.data (e : CopyEntry) : Data :=
  .compact
    [("source", some (.text e.source)), ("destination", some (.text e.destination)),
     ("target", e.target.map .text), ("user", e.user.map .text),
     ("export", e.exported.map .bool)]

def Assembly.data (a : Assembly) : Data :=
  .compact
    [("name", some (.text a.name)), ("target-dir", a.targetDir.map .text),
     ("user", a.user.map .text), ("export-target-dir", a.exportTargetDir.map .bool)]

def OrderedMap.textData? (m : OrderedMap (Option String)) : Option Data :=
  if m.isEmpty then none else some (m.data .textOrNull)

namespace Config

def data (c : Config) : Data :=
  .compact
    [("from", c.base.map .text), ("from-ext", c.baseReference.map (·.data .text)),
     ("maintainer", c.maintainer.map .text), ("workdir", c.workdir.map .text),
     ("user", c.user.map .text), ("shell", c.shell.map Argument.data),
     ("cmd", c.cmd.map Argument.data), ("entrypoint", c.entrypoint.map Argument.data),
     ("run", Data.unlessEmpty .text c.runs), ("ports", Data.unlessEmpty .text c.ports),
     ("volumes", Data.unlessEmpty .text c.volumes), ("env", c.env.textData?),
     ("labels", c.labels.textData?), ("optimise", some (.bool c.optimise)),
     ("healthcheck", c.healthCheck.map HealthCheck.data),
     ("copy", Data.unlessEmpty CopyEntry.data c.copies),
     ("assemblies", Data.unlessEmpty Assembly.data c.assemblies),
     ("args", c.buildArgs.map (·.data .text)),
     ("cache-from", Data.unlessEmpty .text c.cacheFrom)]

def ofData (d : Data) : Except Yaml.ReadError Config := d.document.value reads

end Config

end ImageRecipe
