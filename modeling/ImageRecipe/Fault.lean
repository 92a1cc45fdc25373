namespace ImageRecipe

inductive Fault where
  | malformedBaseDir (dir : String)
  | invalidPort (entry : String)
  | emptyEnvValue (key : String)
  | unsupportedHealthCheckMode (mode : String)
  | healthCheckWithoutCommand
  | disabledHealthCheckWithOptions
  | malformedArgument
  | duplicateAssemblyName (name : String)
deriving DecidableEq, Repr

namespace Fault

def message : Fault → String
  | malformedBaseDir dir =>
    "'basedir' must be an absolute path starting with / or start with an environment variable, " ++
      "got '" ++ dir ++ "'"
  | invalidPort entry =>
    "Invalid port mapping '" ++ entry ++ "', required format: '<port>(/tcp|udp)'"
  | emptyEnvValue key =>
    "Environment variable '" ++ key ++ "' must not be null or empty if building an image"
  | unsupportedHealthCheckMode mode => "Unsupported health check mode: " ++ mode
  | healthCheckWithoutCommand =>
    "HealthCheck: the parameter 'cmd' is mandatory when the health check mode is set to 'cmd' " ++
      "(default)"
  | disabledHealthCheckWithOptions =>
    "HealthCheck: no parameters are allowed when the health check mode is set to 'none'"
  | malformedArgument =>
    "Argument conflict: either shell or exec should be specified and only in one form"
  | duplicateAssemblyName name =>
    "Multiple assemblies use the name \"" ++ name ++ "\". Assembly names must be unique"

def help? : Fault → Option String
  | malformedBaseDir _ => some "Use a path like '/app' or '$\x7bAPP_HOME\x7d/lib'"
  | invalidPort _ =>
    some "Ports are numbers with an optional protocol, like '8080' or '53/udp'"
  | unsupportedHealthCheckMode _ => some "Supported modes are 'cmd' and 'none'"
  | _ => none

end Fault

end ImageRecipe
