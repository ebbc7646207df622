import Tincture.Config.Basic
import Tincture.Language.Basic

/-!
# Configured languages

The built-in languages come first, each in its place also when a configured one with the same name
replaces it; other configured languages follow in the order in which their names first occur. Of
languages with the same name the last one counts.
-/

namespace Tincture

/-- A language put into a list: in the place of the one with its name, or at the end. -/
def LanguageSpec.layer (specs : List LanguageSpec) (spec : LanguageSpec) : List LanguageSpec :=
  match specs with
  | [] => [spec]
  | s :: rest => if s.id = spec.id then spec :: rest else s :: LanguageSpec.layer rest spec

/-- The language of an entry. A configuration that cannot be read is empty. -/
def LanguageEntry.toSpec (files : FileTree) (base : Option String) (e : LanguageEntry) :
    LanguageSpec :=
  let configuration := match e.configuration with
    | some path => match files.read (Path.within base path) with
      | .ok text => (LanguageConfiguration.ofJson? text).getD {}
      | .error _ => {}
    | none => {}
  { id := e.id, scopeName := e.scopeName, extensions := e.extensions
    grammar := .path (Path.within base e.grammar), configuration }

/-- All languages; paths are seen from the directory `base`. -/
def Config.languageSpecs (c : Config) (files : FileTree) (base : Option String) :
    List LanguageSpec :=
  (c.languages.map (·.toSpec files base)).foldl LanguageSpec.layer builtinLanguages

end Tincture
