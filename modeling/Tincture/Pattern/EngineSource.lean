import Tincture.Files.Tree
import Tincture.Pattern.Engine

/-!
# Where engine options come from

The engine is asked for with its usual options, or with those that a file gives. A file that cannot
be read is named in the error.
-/

namespace Tincture

inductive EngineSource where
  | usual
  | file (path : String)
  deriving DecidableEq, Repr

/-- The options that a source gives. -/
def EngineSource.options (files : FileTree) : EngineSource → Except EngineError EngineOptions
  | usual => .ok {}
  | file path => match files.read path with
    | .ok text => EngineOptions.ofYaml text
    | .error e => .error (.fetch s!"{path}: {e.message}")

end Tincture
