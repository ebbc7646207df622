import Tincture.Text.Blank

/-!
# Sorting imports

The items that an import names, after the last `":` of its line, are put in the order of their
characters.
-/

namespace Tincture.Format

open Text

/-- A text up to and with its last `":`, and what follows. -/
def splitAfterLastColon : List Char → Option (List Char × List Char)
  | [] => none
  | c :: rest =>
    match splitAfterLastColon rest with
    | some (head, after) => some (c :: head, after)
    | none => match rest with
      | ':' :: after => if c = '"' then some (['"', ':'], after) else none
      | _ => none

/-- Texts one after the other with a separator between them. -/
def joinWith (sep : List Char) : List (List Char) → List Char
  | [] => []
  | [s] => s
  | s :: rest => s ++ sep ++ joinWith sep rest

/-- The items of a list separated by commas, without the white space around them; empty items are
left out. -/
def importItems (s : List Char) : List (List Char) :=
  ((splitOn ',' s).map trim).filter (!·.isEmpty)

/-- Texts in the order of their characters. -/
def sortItems (items : List (List Char)) : List (List Char) :=
  items.mergeSort fun a b => !decide (b < a)

/-- An import with its items in order. It is left alone if it names none, all, or its items in a way
that is more than a list of names. -/
def sortImportItems (content : List Char) : List Char :=
  match splitAfterLastColon content with
  | none => content
  | some (head, rest) =>
    let items := trim rest
    if items.isEmpty || items == ['*']
        || items.any (fun c => c == '(' || c == ')' || c == '`' || c == '"') then content
    else head ++ ' ' :: joinWith [',', ' '] (sortItems (importItems items))

end Tincture.Format
