import Tincture.Pattern.Basic

/-!
# Scanners

A scanner is an ordered list of patterns that are searched together. A slot whose pattern was
refused never matches. The match that starts first wins; among those that start together, the
pattern that comes first does.
-/

namespace Tincture

/-- Patterns searched together, in order of preference. -/
structure Scanner where
  patterns : List (Option Pattern)

/-- A match, with the slot of the pattern that it belongs to. -/
structure ScanMatch where
  index : Nat
  found : Match
  deriving DecidableEq, Repr

namespace Scanner

/-- The number of slots. -/
def size (s : Scanner) : Nat :=
  s.patterns.length

/-- Whether there is no slot at all. -/
def isEmpty (s : Scanner) : Bool :=
  s.patterns.isEmpty

/-- The match that wins over `best`, if one of the patterns from slot `index` on has one. A match
at the place of the search cannot be beaten, so the search stops there. -/
def findFrom (text : Array Char) (pos : Nat) : Nat → Option ScanMatch → List (Option Pattern) →
    Option ScanMatch
  | _, best, [] => best
  | index, best, p :: rest =>
    match p.bind (·.find? text pos) with
    | none => findFrom text pos (index + 1) best rest
    | some m =>
      if best.all fun b => m.start < b.found.start then
        if m.start == pos then some ⟨index, m⟩
        else findFrom text pos (index + 1) (some ⟨index, m⟩) rest
      else findFrom text pos (index + 1) best rest

/-- The match that starts first at or after a place. -/
def findNext? (s : Scanner) (text : Array Char) (pos : Nat) : Option ScanMatch :=
  findFrom text pos 0 none s.patterns

/-- All matches from left to right. After a match the search goes on at its end, or at the next
character if that is not further on. -/
def allFrom (s : Scanner) (text : Array Char) : Nat → Nat → List ScanMatch
  | 0, _ => []
  | fuel + 1, pos =>
    match s.findNext? text pos with
    | none => []
    | some m =>
      if pos < m.found.stop then m :: allFrom s text fuel m.found.stop
      else if pos < text.size then m :: allFrom s text fuel (pos + 1)
      else [m]

/-- All matches in a text. -/
def findAll (s : Scanner) (text : Array Char) : List ScanMatch :=
  s.allFrom text (text.size + 1) 0

end Scanner

/-- A pattern that was refused. -/
structure PatternError where
  source : String
  deriving DecidableEq, Repr

namespace EngineOptions

/-- The pattern of a source text, or why there is none. -/
def compile (options : EngineOptions) (source : String) : Except PatternError Pattern :=
  match Pattern.compile? options source with
  | some p => .ok p
  | none => .error ⟨source⟩

/-- A scanner for source texts; the first one that is refused is reported. -/
def createScanner (options : EngineOptions) (sources : List String) :
    Except PatternError Scanner :=
  (sources.mapM (options.compile ·)).map fun ps => ⟨ps.map some⟩

/-- A scanner with a slot for each source text, whether it is refused or not. -/
def createLenientScanner (options : EngineOptions) (sources : List String) : Scanner :=
  ⟨sources.map (Pattern.compile? options ·)⟩

end EngineOptions

end Tincture
