import BraceScript.Text.Points

/-!
# Configuration

What every run is set up with, whatever script it runs.
-/

namespace BraceScript

/-- What every run is set up with. -/
structure Config where
  /-- The libraries that every program has, in front of those that it asks for. -/
  defaultReferences : List Text.Points
  /-- Where temporary copies go; `none` is the usual place. -/
  tempDir : Option Text.Points
  /-- The encoding of source files. -/
  encoding : Text.Points
  deriving DecidableEq, Repr

/-- The configuration without a configuration file. -/
def Config.default : Config := ⟨["math", "os"], none, "utf-8-sig"⟩

end BraceScript
