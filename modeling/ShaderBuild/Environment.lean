/-
  The process environment: variables that set the modes of all builds, and what is logged.

  * `LogRecord`: a message with its level;
  * `Environment`: variables with their values; `Environment.flag` reads one as a switch, and
    `Environment.flagLog` tells what is logged about it.
-/
import ShaderBuild.Fault
import ShaderBuild.Text.Blank
import ShaderBuild.Text.LowerCase

namespace ShaderBuild

/-- How important a logged message is. -/
inductive Level where
  | debug
  | info
  | warning
  deriving DecidableEq

def Level.name : Level → String
  | .debug => "DEBUG"
  | .info => "INFO"
  | .warning => "WARNING"

/-- A logged message. -/
structure LogRecord where
  level : Level
  message : Text
  deriving DecidableEq

/-- What an operation logs, in order. -/
abbrev Log := List LogRecord

/-- Variables with their values; the first entry for a name counts. -/
abbrev Environment := List (Text × Text)

namespace Environment

/-- The value of a variable, if it is set. -/
def value? (env : Environment) (name : Text) : Option Text :=
  (env.find? fun v => v.1 = name).map (·.2)

/-- The value of a variable without blanks around it; empty if it is not set. -/
def trimmed (env : Environment) (name : Text) : Text :=
  Text.strip CodePoint.isBlank ((env.value? name).getD [])

/-- The words that turn a switch on. -/
def truthy : List Text := ["1", "true", "yes", "on"].map text

/-- The words that turn a switch off. -/
def falsy : List Text := ["", "0", "false", "no", "off"].map text

/-- The value of a variable as a switch is read: trimmed and in lower case. -/
def flagWord (env : Environment) (name : Text) : Text := Text.lower (env.trimmed name)

/-- Is the switch turned on? -/
def flag (env : Environment) (name : Text) : Bool := truthy.contains (env.flagWord name)

/-- What is logged when a switch is read: a warning about a word that means nothing. -/
def flagLog (env : Environment) (name : Text) : Log :=
  let word := env.flagWord name
  if truthy.contains word || falsy.contains word then []
  else [⟨.warning,
    text "Ignoring unrecognized value " ++ Quoted.quote word ++ text " for " ++ name ++ text "."⟩]

/-- The switch that leaves debug information out. -/
def stripFlag : Text := text "VKSHADER_STRIP"

/-- The switch that turns optimization off. -/
def zeroFlag : Text := text "VKSHADER_DEFAULT_OPTIMIZE_ZERO"

/-- The variable with the project root. -/
def rootVariable : Text := text "VKSHADER_PROJECT_ROOT"

/-- The variable with the path of the compiler library. -/
def libraryVariable : Text := text "SHADERC_LIB_PATH"

end Environment

end ShaderBuild
