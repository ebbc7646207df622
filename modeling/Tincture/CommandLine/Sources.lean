import Tincture.CommandLine.Run

/-!
# The files of a run

A run is given its files beforehand. Which ones it asks for is told by its arguments, and by the
configuration that they lead to; so the files are gathered in two rounds, the first of which brings
the configuration.
-/

namespace Tincture

/-- The files that a configuration refers to; paths are seen from the directory `base`. -/
def Config.sources (c : Config) (base : Option String) : List String :=
  (c.engineOptions.map (Path.within base)).toList
    ++ c.themes.map (fun t => Theme.path base t.url)
    ++ c.languages.flatMap fun l =>
      Path.ofUrl (Path.within base l.grammar) :: (l.configuration.map (Path.within base)).toList

/-- The files that a run with these arguments asks for, as far as the known ones tell. -/
def Run.sources (s : Surroundings) (arguments : List String) : List String :=
  match Arguments.ofList arguments with
  | .error _ => []
  | .ok a =>
    (a.config.or (s.configHome.map Config.file)).toList
      ++ a.command.file?.toList ++ a.grammar.toList
      ++ (loadConfig s a).sources (s.configHome.map Config.directory)

end Tincture
