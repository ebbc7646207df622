import Tincture.Proofs.Grammar.Reached
import Tincture.Proofs.Tokens.Steps

/-!
# First declared, first served

A grammar lists rules in the order in which they are to be preferred, and a group stands for what it
lists. A search that opens each group once does not write a list out in full, for of a group that comes
again nothing comes up again. This changes nothing in what is preferred: if no group leads back to
itself, what comes up is the list written out in full (`Unfolds`) up to rules that came up before
(`Collects.eraseDups_eq`), and of two lists that differ in such rules only, the same rule wins at each
place of each text (`first?_eq_of_eraseDups_eq`).

So the scanner of a rule has a slot for each rule to which groups lead, in the order that the grammar
declares (`scanner_looksFor`).
-/

namespace Tincture

namespace Flatten

variable {rules : Array Rule} {children : List RuleId} {found found' : Found}

/-! ### Lists written out in full -/

/-- A list of rules written out in full: in the place of a group stands what it lists, written out. -/
inductive Unfolds (rules : Array Rule) : List RuleId → List RuleId → Prop
  | nil : Unfolds rules [] []
  | target {child : RuleId} {rest ids : List RuleId} (htarget : IsTarget rules child)
      (hrest : Unfolds rules rest ids) : Unfolds rules (child :: rest) (child :: ids)
  | group {child : RuleId} {patterns rest inside ids : List RuleId}
      (hgroup : IsGroup rules child patterns) (hinside : Unfolds rules patterns inside)
      (hrest : Unfolds rules rest ids) : Unfolds rules (child :: rest) (inside ++ ids)

/-- Of the groups to which groups lead from a list, none leads back to itself. -/
def Acyclic (rules : Array Rule) (children : List RuleId) : Prop :=
  ∀ child ∈ children, ∀ group, Reaches rules child group →
    ¬ Relation.TransGen (Lists rules) group group

theorem Acyclic.tail {child : RuleId} {rest : List RuleId} (h : Acyclic rules (child :: rest)) :
    Acyclic rules rest :=
  fun other hother => h other (List.mem_cons_of_mem _ hother)

theorem Acyclic.inside {child : RuleId} {patterns rest : List RuleId}
    (h : Acyclic rules (child :: rest)) (hgroup : IsGroup rules child patterns) :
    Acyclic rules patterns := by
  intro other hother group hreaches
  have hlists : Lists rules child other := ⟨patterns, hgroup, hother⟩
  exact h child List.mem_cons_self group (hreaches.head hlists)

/-- What such a group lists does not lead back to it. -/
theorem Acyclic.not_reaches {child other : RuleId} {patterns rest : List RuleId}
    (h : Acyclic rules (child :: rest)) (hgroup : IsGroup rules child patterns)
    (hother : other ∈ patterns) : ¬ Reaches rules other child := by
  intro hreaches
  have hlists : Lists rules child other := ⟨patterns, hgroup, hother⟩
  exact h child List.mem_cons_self child .refl (.head' hlists hreaches)

/-- There is one way only to write a list out. -/
theorem Unfolds.unique {ids : List RuleId} (h : Unfolds rules children ids) :
    ∀ {ids'}, Unfolds rules children ids' → ids' = ids := by
  induction h with
  | nil =>
    rintro _ ⟨⟩
    rfl
  | target htarget _ ih =>
    rintro _ (_ | ⟨_, h⟩ | ⟨hgroup, _, _⟩)
    · rw [ih h]
    · exact absurd htarget (not_isTarget_of_isGroup hgroup)
  | group hgroup _ _ ihinside ihrest =>
    rintro _ (_ | ⟨htarget, _⟩ | ⟨hgroup', hinside, hrest⟩)
    · exact absurd htarget (not_isTarget_of_isGroup hgroup)
    · obtain rfl := hgroup.unique hgroup'
      rw [ihinside hinside, ihrest hrest]

/-- A list is written out along ways on which no group comes twice, so that there is an end to it. -/
theorem exists_unfolds_of_unopened_le (hclosed : Closed rules) {bound : Nat} {path : List RuleId}
    (hbound : unopened rules path ≤ bound) (hchildren : ∀ child ∈ children, child < rules.size)
    (hpath : ∀ group ∈ path, ∀ child ∈ children, Relation.TransGen (Lists rules) group child)
    (hacyclic : Acyclic rules children) : ∃ ids, Unfolds rules children ids := by
  induction bound using Nat.strongRecOn generalizing path children with
  | ind bound ih =>
  induction children with
  | nil => exact ⟨[], .nil⟩
  | cons child rest ihrest =>
    obtain ⟨hchild, hrest⟩ := List.forall_mem_cons.mp hchildren
    obtain ⟨ids, hids⟩ := ihrest hrest
      (fun group hgroup other hother => hpath group hgroup other (List.mem_cons_of_mem _ hother))
      hacyclic.tail
    rcases isGroup_or_isTarget hchild with ⟨patterns, hgroup⟩ | htarget
    · have hnew : child ∉ path := by
        intro hmem
        exact hacyclic child List.mem_cons_self child .refl
          (hpath child hmem child List.mem_cons_self)
      have hlt := unopened_cons_lt hchild hnew
      have hpath' : ∀ group ∈ child :: path, ∀ other ∈ patterns,
          Relation.TransGen (Lists rules) group other := by
        intro group hmem other hother
        have hlists : Lists rules child other := ⟨patterns, hgroup, hother⟩
        rcases List.mem_cons.mp hmem with rfl | hmem
        · exact .single hlists
        · exact (hpath group hmem child List.mem_cons_self).tail hlists
      obtain ⟨inside, hinside⟩ := ih (unopened rules (child :: path))
        (Nat.lt_of_lt_of_le hlt hbound) (Nat.le_refl _) (hclosed.lt_of_isGroup hgroup) hpath'
        (hacyclic.inside hgroup)
      exact ⟨inside ++ ids, .group hgroup hinside hids⟩
    · exact ⟨child :: ids, .target htarget hids⟩

/-- **A list of a closed table** can be written out if no group leads back to itself. -/
theorem exists_unfolds (hclosed : Closed rules) (hchildren : ∀ child ∈ children, child < rules.size)
    (hacyclic : Acyclic rules children) : ∃ ids, Unfolds rules children ids :=
  exists_unfolds_of_unopened_le hclosed (unopened_le_size rules []) hchildren
    (fun _ hgroup => absurd hgroup List.not_mem_nil) hacyclic

/-! ### The order of what comes up -/

/-- What came up before need not come up again. -/
theorem eraseDups_append_of_subset {before ids rest : List RuleId} (h : ids ⊆ before) :
    (before ++ (ids ++ rest)).eraseDups = (before ++ rest).eraseDups := by
  have hids : ids.removeAll before = [] := by
    unfold List.removeAll
    refine List.filter_eq_nil_iff.mpr fun id hid => ?_
    simpa using h hid
  have happend : (ids ++ rest).removeAll before =
      ids.removeAll before ++ rest.removeAll before := List.filter_append ..
  rw [List.eraseDups_append, List.eraseDups_append, happend, hids, List.nil_append]

theorem eraseDups_append_congr {before before' : List RuleId}
    (h : before.eraseDups = before'.eraseDups) (rest : List RuleId) :
    (before ++ rest).eraseDups = (before' ++ rest).eraseDups := by
  have hmem : ∀ id, id ∈ before ↔ id ∈ before' := by
    intro id
    rw [← List.mem_eraseDups, h, List.mem_eraseDups]
  have hremove : rest.removeAll before = rest.removeAll before' := by
    unfold List.removeAll
    refine List.filter_congr fun id _ => ?_
    simp [hmem id]
  rw [List.eraseDups_append, List.eraseDups_append, h, hremove]

/-- All that a group stands for came up. -/
def CameUp (rules : Array Rule) (found : Found) (group : RuleId) : Prop :=
  ∀ patterns ids, IsGroup rules group patterns → Unfolds rules patterns ids → ids ⊆ found.targets

theorem CameUp.mono {group : RuleId} (h : CameUp rules found group)
    (hcollects : Collects rules children found found') : CameUp rules found' group :=
  fun patterns ids hgroup hids =>
    List.Subset.trans (h patterns ids hgroup hids) hcollects.targets_subset

/-- Of the groups to which groups lead from a list, those that were opened came up. -/
def Ready (rules : Array Rule) (found : Found) (children : List RuleId) : Prop :=
  ∀ group ∈ found.opened, (∃ child ∈ children, Reaches rules child group) → CameUp rules found group

namespace Ready

variable {child : RuleId} {patterns rest : List RuleId}

theorem tail (h : Ready rules found (child :: rest)) : Ready rules found rest := by
  rintro group hmem ⟨other, hother, hreaches⟩
  exact h group hmem ⟨other, List.mem_cons_of_mem _ hother, hreaches⟩

theorem target (h : Ready rules found (child :: rest)) :
    Ready rules { found with targets := child :: found.targets } rest := by
  intro group hmem hreaches patterns ids hpatterns hids
  have hcame := h.tail group hmem hreaches
  exact List.Subset.trans (hcame patterns ids hpatterns hids) (List.subset_cons_self _ _)

/-- A group is open while its list is searched, but nothing in the list leads to it. -/
theorem inside (h : Ready rules found (child :: rest)) (hacyclic : Acyclic rules (child :: rest))
    (hgroup : IsGroup rules child patterns) :
    Ready rules { found with opened := child :: found.opened } patterns := by
  rintro group hmem ⟨other, hother, hreaches⟩
  rcases List.mem_cons.mp hmem with rfl | hmem
  · exact absurd hreaches (hacyclic.not_reaches hgroup hother)
  · have hlists : Lists rules child other := ⟨patterns, hgroup, hother⟩
    exact h group hmem ⟨child, List.mem_cons_self, hreaches.head hlists⟩

/-- When the list of a group was searched, that group came up as well. -/
theorem after (h : Ready rules found (child :: rest))
    (hcollects : Collects rules patterns { found with opened := child :: found.opened } found')
    (hchild : CameUp rules found' child)
    (hnew : ∀ group ∈ found'.opened, group ∈ child :: found.opened ∨ CameUp rules found' group) :
    Ready rules found' rest := by
  intro group hmem hreaches
  rcases hnew group hmem with hbefore | hcame
  · rcases List.mem_cons.mp hbefore with rfl | hbefore
    · exact hchild
    · have hcame : CameUp rules { found with opened := child :: found.opened } group :=
        h.tail group hbefore hreaches
      exact hcame.mono hcollects
  · exact hcame

end Ready

/-- A group came up if its list is among what came up. -/
theorem cameUp_of_eraseDups_eq {child : RuleId} {patterns before inside : List RuleId}
    (hgroup : IsGroup rules child patterns) (hinside : Unfolds rules patterns inside)
    (heq : found.targets.reverse.eraseDups = (before ++ inside).eraseDups) :
    CameUp rules found child := by
  intro patterns' ids hpatterns hids id hid
  obtain rfl := hgroup.unique hpatterns
  obtain rfl := hinside.unique hids
  have hwritten : id ∈ (before ++ ids).eraseDups :=
    List.mem_eraseDups.mpr (List.mem_append_right _ hid)
  rw [← heq] at hwritten
  exact List.mem_reverse.mp (List.mem_eraseDups.mp hwritten)

/-- **What comes up** is the list written out in full, up to rules that came up before, if all that the
opened groups stand for did. -/
theorem Collects.eraseDups_eq (h : Collects rules children found found')
    (hacyclic : Acyclic rules children) (hready : Ready rules found children) {ids : List RuleId}
    (hids : Unfolds rules children ids) :
    found'.targets.reverse.eraseDups = (found.targets.reverse ++ ids).eraseDups ∧
      ∀ group ∈ found'.opened, group ∈ found.opened ∨ CameUp rules found' group := by
  induction h generalizing ids with
  | nil found =>
    cases hids
    rw [List.append_nil]
    exact ⟨rfl, fun group hgroup => Or.inl hgroup⟩
  | target htarget _ ih =>
    rcases hids with _ | ⟨_, hids⟩ | ⟨hgroup, _, _⟩
    · obtain ⟨heq, hnew⟩ := ih hacyclic.tail hready.target hids
      refine ⟨?_, hnew⟩
      rw [heq, List.reverse_cons, List.append_assoc]
      rfl
    · exact absurd htarget (not_isTarget_of_isGroup hgroup)
  | @again child _ _ _ _ hgroup hmem _ ih =>
    rcases hids with _ | ⟨htarget, _⟩ | ⟨hgroup', hinside, hids⟩
    · exact absurd htarget (not_isTarget_of_isGroup hgroup)
    · have hcame := hready child hmem ⟨child, List.mem_cons_self, .refl⟩
      obtain ⟨heq, hnew⟩ := ih hacyclic.tail hready.tail hids
      refine ⟨?_, hnew⟩
      rw [heq, eraseDups_append_of_subset]
      intro id hid
      exact List.mem_reverse.mpr (hcame _ _ hgroup' hinside hid)
  | @opens child patterns rest found found₁ found' hgroup _ hcollects hrest ihinside ihrest =>
    rcases hids with _ | ⟨htarget, _⟩ | ⟨hgroup', hinside, hids⟩
    · exact absurd htarget (not_isTarget_of_isGroup hgroup)
    obtain rfl := hgroup.unique hgroup'
    rename_i inside ids
    obtain ⟨heq₁, hnew₁⟩ :=
      ihinside (hacyclic.inside hgroup) (hready.inside hacyclic hgroup) hinside
    -- the list of the group was written out while it was open
    have hchild : CameUp rules found₁ child := cameUp_of_eraseDups_eq hgroup hinside heq₁
    obtain ⟨heq, hnew⟩ := ihrest hacyclic.tail (hready.after hcollects hchild hnew₁) hids
    constructor
    · rw [heq, ← List.append_assoc]
      exact eraseDups_append_congr heq₁ ids
    · intro group hmem
      rcases hnew group hmem with hbefore | hcame
      · rcases hnew₁ group hbefore with hbefore | hcame
        · rcases List.mem_cons.mp hbefore with rfl | hbefore
          · exact Or.inr (hchild.mono hrest)
          · exact Or.inl hbefore
        · exact Or.inr (hcame.mono hrest)
      · exact Or.inr hcame

/-! ### The rule that wins -/

/-- The match of a scanner that wins, with its rule. -/
def first? (s : RuleScanner) (text : Array Char) (pos : Nat) : Option (RuleId × Match) := do
  let m ← s.scanner.findNext? text pos
  let id ← s.rules[m.index]?
  return (id, m.found)

/-- The scanner for a list of rules. -/
def slots (rules : Array Rule) (ids : List RuleId) : RuleScanner :=
  ⟨⟨ids.map (entry rules)⟩, ids⟩

/-- The match that wins over the best one so far, among those of the rules of a list: one wins only if
it starts earlier, and at the place of the search it ends the search. -/
def winner (rules : Array Rule) (text : Array Char) (pos : Nat) :
    Option (RuleId × Match) → List RuleId → Option (RuleId × Match)
  | best, [] => best
  | best, id :: rest =>
    match (entry rules id).bind (·.find? text pos) with
    | none => winner rules text pos best rest
    | some m =>
      if best.all fun b => m.start < b.2.start then
        if m.start == pos then some (id, m) else winner rules text pos (some (id, m)) rest
      else winner rules text pos best rest

/-- The match of a rule, if it has one, does not win over the best one so far. -/
def Beaten (rules : Array Rule) (text : Array Char) (pos : Nat) (best : Option (RuleId × Match))
    (id : RuleId) : Prop :=
  ∀ m, (entry rules id).bind (·.find? text pos) = some m →
    ∃ b, best = some b ∧ b.2.start ≤ m.start

variable {text : Array Char} {pos : Nat} {best : Option (RuleId × Match)} {id : RuleId}

theorem winner_cons_of_beaten (h : Beaten rules text pos best id) (rest : List RuleId) :
    winner rules text pos best (id :: rest) = winner rules text pos best rest := by
  rw [winner]
  split
  · rfl
  · rename_i m hm
    obtain ⟨b, rfl, hle⟩ := h m hm
    rw [if_neg]
    simpa using hle

/-- After a rule the search is over, or it goes on with a match that beats that of the rule and all that
was beaten before. -/
theorem winner_cons_cases (rules : Array Rule) (text : Array Char) (pos : Nat)
    (best : Option (RuleId × Match)) (id : RuleId) :
    ∃ best', Beaten rules text pos best' id ∧
      (∀ other, Beaten rules text pos best other → Beaten rules text pos best' other) ∧
      ((∀ rest, winner rules text pos best (id :: rest) = best') ∨
        ∀ rest, winner rules text pos best (id :: rest) = winner rules text pos best' rest) := by
  cases hfind : (entry rules id).bind (·.find? text pos) with
  | none =>
    have hbeaten : Beaten rules text pos best id := by
      intro m hm
      rw [hfind] at hm
      cases hm
    exact ⟨best, hbeaten, fun _ h => h, Or.inr (winner_cons_of_beaten hbeaten)⟩
  | some m =>
    by_cases hall : (best.all fun b => m.start < b.2.start) = true
    · refine ⟨some (id, m), ?_, ?_, ?_⟩
      · intro m' hm'
        obtain rfl := Option.some.inj (hfind.symm.trans hm')
        exact ⟨(id, m), rfl, Nat.le_refl _⟩
      · intro other h m' hm'
        obtain ⟨b, rfl, hle⟩ := h m' hm'
        have hlt : m.start < b.2.start := by simpa using hall
        exact ⟨(id, m), rfl, Nat.le_trans (Nat.le_of_lt hlt) hle⟩
      · -- nothing starts earlier than a match at the place of the search, and nothing is tried after it
        by_cases hpos : (m.start == pos) = true
        · refine Or.inl fun rest => ?_
          rw [winner, hfind]
          dsimp only
          rw [if_pos hall, if_pos hpos]
        · refine Or.inr fun rest => ?_
          rw [winner, hfind]
          dsimp only
          rw [if_pos hall, if_neg hpos]
    · have hbeaten : Beaten rules text pos best id := by
        intro m' hm'
        obtain rfl := Option.some.inj (hfind.symm.trans hm')
        cases best with
        | none => exact absurd rfl hall
        | some b => exact ⟨b, rfl, by simpa using hall⟩
      exact ⟨best, hbeaten, fun _ h => h, Or.inr (winner_cons_of_beaten hbeaten)⟩

/-- A rule that is beaten may be left out. -/
theorem winner_filter (ids : List RuleId) (h : Beaten rules text pos best id) :
    winner rules text pos best (ids.filter (!· == id)) = winner rules text pos best ids := by
  induction ids generalizing best with
  | nil => rfl
  | cons other rest ih =>
    by_cases heq : other = id
    · subst heq
      rw [List.filter_cons_of_neg (by simp), winner_cons_of_beaten h]
      exact ih h
    · rw [List.filter_cons_of_pos (by simpa using heq)]
      obtain ⟨best', _, hkeeps, hover | hon⟩ := winner_cons_cases rules text pos best other
      · rw [hover, hover]
      · rw [hon, hon]
        exact ih (hkeeps id h)

/-- A rule that comes again never wins. -/
theorem winner_eraseDups (ids : List RuleId) (best : Option (RuleId × Match)) :
    winner rules text pos best ids.eraseDups = winner rules text pos best ids := by
  induction hlength : ids.length using Nat.strongRecOn generalizing ids best with
  | ind length ih =>
  cases ids with
  | nil => rfl
  | cons id rest =>
    have hlt : (rest.filter (!· == id)).length < length := by
      have hle := List.length_filter_le (!· == id) rest
      rw [List.length_cons] at hlength
      omega
    rw [List.eraseDups_cons]
    obtain ⟨best', hbeaten, _, hover | hon⟩ := winner_cons_cases rules text pos best id
    · rw [hover, hover]
    · rw [hon, hon, ih _ hlt _ _ rfl]
      exact winner_filter rest hbeaten

/-- A scanner finds what wins among the rules of its slots. -/
theorem findFrom_slots {whole before ids : List RuleId} (hwhole : whole = before ++ ids)
    (best : Option ScanMatch) (hbest : ∀ b, best = some b → b.index < whole.length) :
    (Scanner.findFrom text pos before.length best (ids.map (entry rules))).bind
        (fun m => whole[m.index]?.map (·, m.found)) =
      winner rules text pos (best.bind fun m => whole[m.index]?.map (·, m.found)) ids := by
  induction ids generalizing before best with
  | nil => rfl
  | cons id rest ih =>
    have hwhole' : whole = (before ++ [id]) ++ rest := by rw [hwhole, List.append_assoc]; rfl
    have hid : whole[before.length]? = some id := by
      rw [hwhole, List.getElem?_append_right (Nat.le_refl _), Nat.sub_self]
      rfl
    have hnext : before.length + 1 = (before ++ [id]).length := by
      rw [List.length_append, List.length_singleton]
    rw [List.map_cons, Scanner.findFrom, winner]
    cases (entry rules id).bind (·.find? text pos) with
    | none =>
      dsimp only
      rw [hnext]
      exact ih hwhole' best hbest
    | some m =>
      dsimp only
      have hall : (best.all fun b => decide (m.start < b.found.start)) =
          (best.bind fun m => whole[m.index]?.map (·, m.found)).all
            fun b => decide (m.start < b.2.start) := by
        cases best with
        | none => rfl
        | some b =>
          have hlt := hbest b rfl
          rw [Option.bind_some, List.getElem?_eq_getElem hlt]
          rfl
      have hfound : ((some ⟨before.length, m⟩ : Option ScanMatch).bind
          fun m => whole[m.index]?.map (·, m.found)) = some (id, m) := by
        rw [Option.bind_some, hid]
        rfl
      rw [hall]
      split
      · split
        · exact hfound
        · rw [hnext, ← hfound]
          refine ih hwhole' _ fun b hb => ?_
          obtain rfl := Option.some.inj hb
          rw [hwhole, List.length_append, List.length_cons]
          show before.length < _
          omega
      · rw [hnext]
        exact ih hwhole' best hbest

theorem first?_slots (ids : List RuleId) :
    first? (slots rules ids) text pos = winner rules text pos none ids := by
  have hfrom : (Scanner.findFrom text pos 0 none (ids.map (entry rules))).bind
      (fun m => ids[m.index]?.map (·, m.found)) = winner rules text pos none ids :=
    findFrom_slots (List.nil_append ids).symm none (fun b hb => by cases hb)
  rw [← hfrom]
  unfold first?
  show (Scanner.findFrom text pos 0 none (ids.map (entry rules))).bind
      (fun m => ids[m.index]?.bind fun id => some (id, m.found)) = _
  congr 1
  funext m
  cases ids[m.index]? with
  | none => rfl
  | some id => rfl

/-- **The rule that wins** is the same for lists that differ in rules that came up before only. -/
theorem first?_eq_of_eraseDups_eq {ids ids' : List RuleId} (h : ids.eraseDups = ids'.eraseDups) :
    first? (slots rules ids) text pos = first? (slots rules ids') text pos := by
  rw [first?_slots, first?_slots, ← winner_eraseDups ids, h, winner_eraseDups ids']

end Flatten

/-! ### Patterns that were refused -/

namespace Compile

/-- The pattern at which a rule of a file starts to apply, as the file has it. -/
def entrySource (spec : RuleSpec) : Option String :=
  spec.matchPattern.or spec.beginPattern

/-- A rule that is no group starts to apply at the pattern of the file, unless it was refused. -/
theorem entry_of_kindOf {options : EngineOptions} {spec : RuleSpec} {children : List RuleId}
    {kind : RuleKind} (h : kindOf options spec children = .ok kind) (hkind : kind.isGroup = false) :
    ∃ source, entrySource spec = some source ∧ kind.entry = Pattern.compile? options source := by
  unfold kindOf at h
  dsimp only at h
  unfold entrySource
  split at h
  · rename_i source hmatch
    obtain ⟨_, _, h⟩ := exists_of_bind_ok h
    obtain rfl := Except.ok.inj h
    exact ⟨source, by rw [hmatch, Option.some_or], rfl⟩
  · rename_i begins hmatch hbegin
    have hsource : spec.matchPattern.or spec.beginPattern = some begins := by
      rw [hmatch, hbegin, Option.none_or]
    split at h
    · obtain ⟨_, _, h⟩ := exists_of_bind_ok h
      obtain ⟨_, _, h⟩ := exists_of_bind_ok h
      obtain rfl := Except.ok.inj h
      exact ⟨begins, hsource, rfl⟩
    · obtain ⟨_, _, h⟩ := exists_of_bind_ok h
      obtain ⟨_, _, h⟩ := exists_of_bind_ok h
      obtain rfl := Except.ok.inj h
      exact ⟨begins, hsource, rfl⟩
    · cases h
  · obtain rfl := Except.ok.inj h
    cases hkind

/-- **A rule of a compiled grammar** that is no group is made of a rule of the file, at whose pattern it
starts to apply, unless that was refused. -/
theorem exists_place_of_target {options : EngineOptions} {spec : GrammarSpec} {g : Grammar}
    (hg : Grammar.compile options spec = .ok g) {id : RuleId} {r : Rule}
    (hr : g.rules[id]? = some r) (hkind : r.kind.isGroup = false) :
    ∃ place ∈ places spec, MadeOf options place.2 id r ∧
      ∃ source, entrySource place.2 = some source ∧
        r.kind.entry = Pattern.compile? options source := by
  rcases compile_cases options spec with ⟨e, he, _⟩ | ⟨g', s, hok, _, hinOrder, hrules, _⟩
  · rw [he] at hg
    cases hg
  obtain rfl := Except.ok.inj (hok.symm.trans hg)
  have hlt : id < s.rules.size := by
    rw [hrules, Array.size_map]
    exact (Array.getElem?_eq_some_iff.mp hr).1
  have hpos : 0 < id := by
    -- the first number is that of a group
    refine Nat.pos_of_ne_zero fun hzero => ?_
    obtain ⟨patterns, hroot⟩ := Grammar.rule?_root hok
    rw [Grammar.rule?, Grammar.root, ← hzero, hr] at hroot
    obtain rfl := Option.some.inj hroot
    cases hkind
  obtain ⟨address, haddress⟩ := hinOrder.exists_address hpos hlt
  obtain ⟨rule, hplace, _, hmade⟩ := hinOrder.ofFile address id haddress
  have hmadeOf : MadeOf options rule id r := by
    refine hmade r ?_
    rw [hrules, Array.getElem?_map, hr]
    rfl
  refine ⟨(address, rule), hplace, hmadeOf, ?_⟩
  obtain ⟨children, kind, hkindOf, rfl⟩ := hmadeOf
  exact entry_of_kindOf hkindOf hkind

end Compile

/-! ### The scanner of a rule -/

namespace Flatten

/-- What the scanner of a rule has to be. -/
structure LooksFor (rules : Array Rule) (rule : Rule) (s : RuleScanner) : Prop where
  /-- The search through the list of the rule comes to an end, and the scanner has what came up. -/
  ends : ∃ found, (∀ found', Collects rules rule.kind.children ⟨[rule.id], []⟩ found' ↔
    found' = found) ∧ s.rules = found.targets.reverse
  /-- These are just the rules that are no groups and to which groups lead from that list. -/
  mem_iff : ∀ target, target ∈ s.rules ↔
    IsTarget rules target ∧ ∃ child ∈ rule.kind.children, Reaches rules child target
  /-- Each has the slot of its place, with its pattern; the slot is empty if there is none. -/
  slots : List.Forall₂ (fun slot target => ∃ r, rules[target]? = some r ∧ slot = r.kind.entry)
    s.scanner.patterns s.rules
  /-- In a compiled grammar these are the slots of patterns that were refused. -/
  refused : ∀ options spec g, Grammar.compile options spec = .ok g → g.rules = rules →
    List.Forall₂ (fun slot target => ∃ r, rules[target]? = some r ∧
      ∃ place ∈ Compile.places spec, Compile.MadeOf options place.2 target r ∧
        ∃ source, Compile.entrySource place.2 = some source ∧
          slot = Pattern.compile? options source) s.scanner.patterns s.rules
  /-- If no group leads back to itself, the list can be written out in one way. The rules are those of
  the list written out, up to those that came up before, and the same rule wins everywhere. -/
  order : Acyclic rules rule.kind.children →
    ∃ ids, (∀ ids', Unfolds rules rule.kind.children ids' ↔ ids' = ids) ∧
      s.rules.eraseDups = ids.eraseDups ∧
      ∀ text pos, first? s text pos = first? (Flatten.slots rules ids) text pos

variable {rules : Array Rule} {rule : Rule}

theorem scanner_eq_slots (hkind : ∀ pattern captures, rule.kind ≠ .single pattern captures) :
    scanner rules rule = some (slots rules (targets rules rule.id rule.kind.children)) := by
  unfold scanner
  split
  · rename_i hsingle
    exact absurd hsingle (hkind _ _)
  · rfl

/-- **The scanner of a rule** of a closed table, whatever groups lead to each other in it, has the rules
to which groups lead from what the rule lists, each with its pattern, and prefers them as they are
declared. -/
theorem scanner_looksFor (hclosed : Closed rules) {id : RuleId} (hrule : rules[id]? = some rule)
    (hkind : ∀ pattern captures, rule.kind ≠ .single pattern captures) :
    ∃ s, scanner rules rule = some s ∧ LooksFor rules rule s := by
  obtain rfl := hclosed.id_eq id rule hrule
  have hchildren := hclosed.children rule.id rule hrule
  have hcollects : Collects rules rule.kind.children ⟨[rule.id], []⟩
      (collect rules rules.size rule.kind.children ⟨[rule.id], []⟩) :=
    (collects_iff hclosed hchildren).mpr rfl
  have hlisted : ∀ patterns, IsGroup rules rule.id patterns → patterns = rule.kind.children := by
    rintro patterns ⟨rule', hrule', hgroup⟩
    obtain rfl := Option.some.inj (hrule.symm.trans hrule')
    rw [hgroup]
    rfl
  have hslots : ∀ target ∈ targets rules rule.id rule.kind.children, ∃ r, rules[target]? = some r ∧
      r.kind.isGroup = false ∧ entry rules target = r.kind.entry := by
    intro target htarget
    obtain ⟨r, hr, hgroup⟩ := isTarget_of_mem_targets target htarget
    refine ⟨r, hr, hgroup, ?_⟩
    rw [entry, hr]
    rfl
  refine ⟨_, scanner_eq_slots hkind, ?_⟩
  constructor
  · exact ⟨_, fun found' => collects_iff hclosed hchildren, rfl⟩
  · intro target
    rw [← hcollects.mem_targets_iff hlisted]
    exact List.mem_reverse
  · refine List.forall₂_map_left_iff.mpr (List.forall₂_same.mpr fun target htarget => ?_)
    obtain ⟨r, hr, _, hentry⟩ := hslots target htarget
    exact ⟨r, hr, hentry⟩
  · rintro options spec g hg rfl
    refine List.forall₂_map_left_iff.mpr (List.forall₂_same.mpr fun target htarget => ?_)
    obtain ⟨r, hr, hgroup, hentry⟩ := hslots target htarget
    obtain ⟨place, hplace, hmade, source, hsource, hslot⟩ :=
      Compile.exists_place_of_target hg hr hgroup
    exact ⟨r, hr, place, hplace, hmade, source, hsource, hentry.trans hslot⟩
  · intro hacyclic
    obtain ⟨ids, hids⟩ := exists_unfolds hclosed hchildren hacyclic
    -- before the search only the rule itself counts as opened, and nothing leads back to it
    have hready : Ready rules ⟨[rule.id], []⟩ rule.kind.children := by
      rintro group hgroup ⟨child, hchild, hreaches⟩ patterns ids' hpatterns
      obtain rfl := List.mem_singleton.mp hgroup
      obtain rfl := hlisted patterns hpatterns
      have hlists : Lists rules rule.id child := ⟨_, hpatterns, hchild⟩
      exact absurd (.head' hlists hreaches) (hacyclic child hchild rule.id hreaches)
    have hdups := (hcollects.eraseDups_eq hacyclic hready hids).1
    refine ⟨ids, fun ids' => ⟨hids.unique, ?_⟩, hdups, fun text pos => ?_⟩
    · rintro rfl
      exact hids
    · exact first?_eq_of_eraseDups_eq hdups

/-- A table in which a list has one group twice, and another group lists itself. -/
def sharingRules : Array Rule := #[
  { id := 0, kind := .group [1, 2, 1] },
  { id := 1, kind := .group [3, 2] },
  { id := 2, kind := .single none {} },
  { id := 3, kind := .region none {} (.fixed "" none) {} false [4, 3] },
  { id := 4, kind := .group [4, 2, 0] }]

theorem closed_sharingRules : Closed sharingRules := by
  have hids : ∀ i : Fin 5, sharingRules[i].id = i := by decide
  have hchildren : ∀ i : Fin 5, ∀ child ∈ sharingRules[i].kind.children, child < 5 := by decide
  constructor
  · intro id rule hrule
    obtain ⟨hid, rfl⟩ := Array.getElem?_eq_some_iff.mp hrule
    exact hids ⟨id, hid⟩
  · intro id rule hrule
    obtain ⟨hid, rfl⟩ := Array.getElem?_eq_some_iff.mp hrule
    exact hchildren ⟨id, hid⟩

theorem scanner_looksFor_sharing :
    Closed sharingRules ∧ ∃ s, scanner sharingRules { id := 0, kind := .group [1, 2, 1] } = some s ∧
      s.rules.eraseDups = [3, 2] := by
  obtain ⟨s, hs, hlooksFor⟩ := scanner_looksFor closed_sharingRules
    (rfl : sharingRules[0]? = some { id := 0, kind := .group [1, 2, 1] }) (by intro _ _ h; cases h)
  -- the groups of the list lead to rules of larger numbers, but not to the last one
  have hstep : ∀ group id, Lists sharingRules group id → group < 4 → group < id ∧ id < 4 := by
    rintro group id ⟨patterns, ⟨rule, hrule, hkind⟩, hid⟩ hlt
    have hgroups : ∀ i : Fin 4, sharingRules[i].kind.isGroup = true →
        ∀ child ∈ sharingRules[i].kind.children, i.val < child ∧ child < 4 := by decide
    obtain ⟨_, rfl⟩ := Array.getElem?_eq_some_iff.mp hrule
    refine hgroups ⟨group, hlt⟩ ?_ id ?_
    · show sharingRules[group].kind.isGroup = true
      rw [hkind]
      rfl
    · show id ∈ sharingRules[group].kind.children
      rw [hkind]
      exact hid
  have hreaches : ∀ child group, Reaches sharingRules child group → child < 4 → group < 4 := by
    intro child group h hlt
    induction h with
    | refl => exact hlt
    | tail _ hlists ih => exact (hstep _ _ hlists ih).2
  have hup : ∀ group id, Relation.TransGen (Lists sharingRules) group id → group < 4 →
      group < id ∧ id < 4 := by
    intro group id h hlt
    induction h with
    | single hlists => exact hstep _ _ hlists hlt
    | tail _ hlists ih =>
      have hlast := hstep _ _ hlists ih.2
      exact ⟨Nat.lt_trans ih.1 hlast.1, hlast.2⟩
  have hacyclic : Acyclic sharingRules [1, 2, 1] := by
    intro child hchild group hgroup hback
    have hlt : child < 4 := by
      have hall : ∀ child ∈ [1, 2, 1], child < 4 := by decide
      exact hall child hchild
    exact Nat.lt_irrefl group (hup group group hback (hreaches child group hgroup hlt)).1
  have htarget : ∀ id, id = 2 ∨ id = 3 → IsTarget sharingRules id := by
    rintro id (rfl | rfl)
    · exact ⟨_, rfl, rfl⟩
    · exact ⟨_, rfl, rfl⟩
  have hinside : Unfolds sharingRules [3, 2] [3, 2] :=
    .target (htarget 3 (Or.inr rfl)) (.target (htarget 2 (Or.inl rfl)) .nil)
  have hgroup : IsGroup sharingRules 1 [3, 2] := ⟨_, rfl, rfl⟩
  have hunfolds : Unfolds sharingRules [1, 2, 1] [3, 2, 2, 3, 2] :=
    .group hgroup hinside (.target (htarget 2 (Or.inl rfl)) (.group hgroup hinside .nil))
  obtain ⟨ids, hids, hdups, _⟩ := hlooksFor.order hacyclic
  refine ⟨closed_sharingRules, s, hs, ?_⟩
  rw [hdups, ← (hids [3, 2, 2, 3, 2]).mp hunfolds]
  decide

end Flatten

end Tincture
