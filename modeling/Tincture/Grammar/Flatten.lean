import Tincture.Grammar.Rule

/-!
# What a rule looks for

A rule looks for the rules that it lists, where a group stands for what the group lists. Each group
is opened once for a rule; the rules are searched in the order in which they come up.
-/

namespace Tincture.Flatten

/-- The groups that were opened, and the rules that came up, both the latest first. -/
structure Found where
  opened : List RuleId
  targets : List RuleId

/-- Adds what a list of rules stands for. With at most `fuel` groups not opened yet, no group is
passed by. -/
def collect (rules : Array Rule) : (fuel : Nat) → List RuleId → Found → Found
  | _, [], found => found
  | fuel, child :: rest, found =>
    let found := match rules[child]? with
      | none => found
      | some rule => match rule.kind with
        | .group patterns =>
          if found.opened.contains child then found
          else match fuel with
            | 0 => found
            | fuel + 1 => collect rules fuel patterns { found with opened := child :: found.opened }
        | _ => { found with targets := child :: found.targets }
    collect rules fuel rest found
termination_by fuel children => (fuel, children.length)

/-- The rules that a rule looks for, in their order. -/
def targets (rules : Array Rule) (id : RuleId) (children : List RuleId) : List RuleId :=
  (collect rules rules.size children ⟨[id], []⟩).targets.reverse

/-- The pattern at which a rule of the table starts to apply. -/
def entry (rules : Array Rule) (id : RuleId) : Option Pattern :=
  (rules[id]?).bind (·.kind.entry)

/-- The scanner of a rule, if it looks for others. -/
def scanner (rules : Array Rule) (rule : Rule) : Option RuleScanner :=
  match rule.kind with
  | .single .. => none
  | kind =>
    let ids := targets rules rule.id kind.children
    some ⟨⟨ids.map (entry rules)⟩, ids⟩

end Tincture.Flatten
