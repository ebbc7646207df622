import Tincture.Data.Yaml.Scalar

/-!
# Writing YAML documents

A mapping has one entry a line, and what belongs to a key but does not fit behind it follows below:
the items of a list at the column of the key, the entries of a mapping indented by two blanks.
-/

namespace Tincture.Data.Yaml

open Text

/-- A value that takes up one line, or a text; nothing else. -/
def leafLine? (indent : Nat) : Data → Option (List Char)
  | null => some "null\n".toList
  | bool true => some "true\n".toList
  | bool false => some "false\n".toList
  | int n => some ((if n < 0 then ['-'] else []) ++ decimal n.natAbs ++ ['\n'])
  | string s | plain s => some (scalarLine indent s.toList)
  | array [] | sequence [] => some "[]\n".toList
  | object [] => some "\x7b\x7d\n".toList
  | _ => none

mutual

/-- A value whose first line starts at a column. -/
def writeAt (indent : Nat) : Data → List Char
  | array (d :: rest) | sequence (d :: rest) => writeItems indent true (d :: rest)
  | object (e :: rest) => writeEntries indent true (e :: rest)
  | d => (leafLine? (indent + 2) d).getD ['\n']

/-- The items of a list; the first one is not indented if its column is reached already. -/
def writeItems (indent : Nat) : (reached : Bool) → List Data → List Char
  | _, [] => []
  | reached, d :: rest =>
    (if reached then [] else blanks indent) ++ ['-', ' '] ++ (match leafLine? (indent + 2) d with
      | some line => line
      | none => writeAt (indent + 2) d) ++ writeItems indent false rest

/-- The entries of a mapping. -/
def writeEntries (indent : Nat) : (reached : Bool) → List (Option String × Data) → List Char
  | _, [] => []
  | reached, (key, d) :: rest =>
    (if reached then [] else blanks indent) ++ (key.getD "").toList ++ ':' ::
      (match d with
        | array (i :: items) | sequence (i :: items) => '\n' :: writeItems indent false (i :: items)
        | object (e :: entries) => '\n' :: writeEntries (indent + 2) false (e :: entries)
        | d => ' ' :: (leafLine? (indent + 2) d).getD ['\n']) ++ writeEntries indent false rest

end

/-- The text of a value. -/
def write (d : Data) : String :=
  String.ofList (writeAt 0 d)

end Tincture.Data.Yaml
