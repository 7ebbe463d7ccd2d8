import TlaRunner.Arguments.BaseName
import TlaRunner.Tool.Kind

/-!
# Arguments of the tools

Every tool is started in the directory of its module and gets the module's final
name.  The transpiler takes the user's options in front of it and the analyzer
takes none.

The model checker takes the module, its fixed flags, and one model file.  The
first `-config` among the user's options, if a value follows it, replaces the
default model file and is taken out; a value is a token that does not start with
a dash.  Before that, `$` followed by `specName` or `modelName` in braces is
replaced by the stem of the module or of the model file.
-/

namespace TlaRunner.Arguments

/-- The flag that names the model file. -/
def configFlag : Text := "-config".toList

/-- The flags the model checker always gets. -/
def checkerFlags : List Text := ["-tool".toList, "-modelcheck".toList]

/-- The variable for the stem of the module. -/
def specVariable : Text := "$\x7bspecName\x7d".toList

/-- The variable for the stem of the model file. -/
def modelVariable : Text := "$\x7bmodelName\x7d".toList

/-- Replaces both variables in an option, the module's first. -/
def substitute (specPath configPath option : Text) : Text :=
  Text.replace modelVariable (stem configPath)
    (Text.replace specVariable (stem specPath) option)

/-- Whether a token can be the value of a flag. -/
def isValue (token : Text) : Bool :=
  !Text.startsWith ['-'] token

/-- The value of the first model flag and the tokens without flag and value, if
a value follows the flag. -/
def takeConfig : List Text → Option (Text × List Text)
  | [] => none
  | token :: rest =>
    if token = configFlag then
      match rest with
      | [] => none
      | value :: rest' => if isValue value then some (value, rest') else none
    else (takeConfig rest).map fun found => (found.1, token :: found.2)

/-- The arguments of the model checker. -/
def checker (modulePath configPath : Text) (options : List Text) : List Text :=
  let custom := options.map (substitute modulePath configPath)
  let chosen := (takeConfig custom).getD (configPath, custom)
  baseName modulePath :: checkerFlags ++ configFlag :: chosen.1 :: chosen.2

/-- The arguments of a tool. -/
def ofTool (tool : Tool) (modulePath configPath : Text) (options : List Text) : List Text :=
  match tool with
  | .transpiler => options ++ [baseName modulePath]
  | .analyzer => [baseName modulePath]
  | .modelChecker => checker modulePath configPath options

end TlaRunner.Arguments
