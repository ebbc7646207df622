import Tincture.Files.Tree
import Tincture.Grammar.Error

/-!
# Where grammars are

A grammar is a file or a text that is at hand. A file that cannot be read counts as a grammar that
is not there.
-/

namespace Tincture

inductive GrammarLocation where
  /-- A file; its path may be given as a URL. -/
  | path (path : String)
  | embedded (source : GrammarSource)
  deriving DecidableEq, Repr

namespace GrammarLocation

/-- The grammar's text, if it is there. -/
def fetch (files : FileTree) : GrammarLocation → Option GrammarSource
  | path p => match files.read (Path.ofUrl p) with
    | .ok text => some ⟨Path.ofUrl p, text⟩
    | .error _ => none
  | embedded source => some source

/-- A location as it is shown. -/
def display : GrammarLocation → String
  | path p => p
  | embedded source => s!"embedded:{source.path}"

end GrammarLocation

end Tincture
