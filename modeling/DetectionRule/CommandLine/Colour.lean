import DetectionRule.CommandLine.Environment
import DetectionRule.Rule.Finding

/-!
# Colours

Output is plain unless colours are asked for. This holds of output that does not go to a terminal;
what a terminal is sent is left out. A coloured text stands between the control sequence of its
style and the one that ends all styles.
-/

namespace DetectionRule.CommandLine

structure Palette where
  coloured : Bool := false
deriving DecidableEq

inductive Style
  | severity (severity : Severity)
  | arrow
  | strong
deriving DecidableEq

def Style.codes : Style → String
  | severity .error => "1;31"
  | severity .warning => "1;33"
  | severity .info => "36"
  | arrow => "34"
  | strong => "1"

namespace Palette

/-- Colours are asked for by a variable that is set to anything but `0`. -/
def choose (environment : Environment) : Palette :=
  match environment.lookup "CLICOLOR_FORCE" with
  | some value => ⟨value != "0"⟩
  | none => ⟨false⟩

def paint (palette : Palette) (style : Style) (s : String) : String :=
  if palette.coloured then "\x1b[" ++ style.codes ++ "m" ++ s ++ "\x1b[0m" else s

end Palette

end DetectionRule.CommandLine
