/-!
# Source files

A source file is known by its path and its text. Nothing is assumed about the text.
-/

namespace SystemSketch

/-- A source file. -/
structure SourceFile where
  path : String
  text : String
  deriving DecidableEq

end SystemSketch
