import Mathlib.Data.List.MinMax
import Tincture.Proofs.Grammar.Computed
import Tincture.Proofs.Grammar.RuleTable
import Tincture.Tokens.Line

/-!
# The match that comes first

A scanner tries its slots in their order, keeps the match that starts first, and stops at a match that
starts where the search does. That is no different from a search of all slots, if no pattern finds a
match that starts before the place from which it is searched: what it finds is the first of the matches
that start first (`Scanner.findNext?_eq_argmin`).

So a region takes, of the matches of all slots and of its end, one that starts first, and of those that
start together the one that is preferred: the end before all slots, or after them if the rule says so,
and the slots in their order (`Tokenize.nextMatch?_wins`).
-/

namespace Tincture

namespace Scanner

variable {s : Scanner} {text : Array Char} {pos index : Nat} {best : Option ScanMatch}
  {patterns : List (Option Pattern)} {m m' : ScanMatch}

/-! ### All slots of a scanner -/

/-- The match of a slot, from a place on. A slot whose pattern was refused has none. -/
def slotMatch? (s : Scanner) (text : Array Char) (pos i : Nat) : Option Match :=
  s.patterns[i]?.join.bind (·.find? text pos)

/-- The matches of patterns, for slots that are numbered from `index` on. -/
def matchesFrom (text : Array Char) (pos index : Nat) (patterns : List (Option Pattern)) :
    List ScanMatch :=
  (patterns.zipIdx index).filterMap fun slot =>
    (slot.1.bind (·.find? text pos)).map (ScanMatch.mk slot.2)

/-- The matches of all slots, in the order of the slots. -/
def slotMatches (s : Scanner) (text : Array Char) (pos : Nat) : List ScanMatch :=
  matchesFrom text pos 0 s.patterns

theorem mem_slotMatches_iff :
    m ∈ s.slotMatches text pos ↔ s.slotMatch? text pos m.index = some m.found := by
  simp only [slotMatches, matchesFrom, slotMatch?, List.mem_filterMap, List.mem_zipIdx_iff_getElem?,
    Option.map_eq_some_iff]
  constructor
  · rintro ⟨slot, hslot, found, hfound, rfl⟩
    rw [hslot, Option.join_some]
    exact hfound
  · intro h
    obtain ⟨p, hp, hfound⟩ := Option.bind_eq_some_iff.mp h
    exact ⟨(some p, m.index), Option.join_eq_some_iff.mp hp, m.found, hfound, rfl⟩

theorem pairwise_slotMatches (s : Scanner) (text : Array Char) (pos : Nat) :
    (s.slotMatches text pos).Pairwise (·.index < ·.index) := by
  have hslots : s.patterns.zipIdx.Pairwise (·.2 < ·.2) := by
    rw [← List.pairwise_map, List.zipIdx_map_snd]
    exact List.pairwise_lt_range' 1
  refine hslots.filterMap _ fun slot slot' hlt b hb b' hb' => ?_
  obtain ⟨_, _, rfl⟩ := Option.map_eq_some_iff.mp hb
  obtain ⟨_, _, rfl⟩ := Option.map_eq_some_iff.mp hb'
  exact hlt

/-- The matches stand in the order of their slots. -/
theorem idxOf_slotMatches_le_iff (hm : m ∈ s.slotMatches text pos)
    (hm' : m' ∈ s.slotMatches text pos) :
    (s.slotMatches text pos).idxOf m ≤ (s.slotMatches text pos).idxOf m' ↔ m.index ≤ m'.index := by
  have hmono : ∀ a b, a ∈ s.slotMatches text pos → b ∈ s.slotMatches text pos →
      (s.slotMatches text pos).idxOf a < (s.slotMatches text pos).idxOf b → a.index < b.index := by
    intro a b ha hb hlt
    have h := List.pairwise_iff_getElem.mp (pairwise_slotMatches s text pos) _ _
      (List.idxOf_lt_length_iff.mpr ha) (List.idxOf_lt_length_iff.mpr hb) hlt
    rwa [List.getElem_idxOf, List.getElem_idxOf] at h
  constructor
  · intro hle
    rcases Nat.eq_or_lt_of_le hle with heq | hlt
    · rw [(List.idxOf_inj hm).mp heq]
    · exact Nat.le_of_lt (hmono m m' hm hm' hlt)
  · intro hle
    by_contra hlt
    exact absurd (hmono m' m hm' hm (Nat.not_le.mp hlt)) (Nat.not_lt.mpr hle)

/-! ### The search that stops early -/

/-- A match that starts first stays the best one. -/
theorem foldl_argAux_of_le {l : List ScanMatch} (h : ∀ m' ∈ l, m.found.start ≤ m'.found.start) :
    l.foldl (List.argAux fun b c => b.found.start < c.found.start) (some m) = some m := by
  induction l with
  | nil => rfl
  | cons m' rest ih =>
    obtain ⟨hle, hrest⟩ := List.forall_mem_cons.mp h
    have hstays : List.argAux (fun b c : ScanMatch => b.found.start < c.found.start) (some m) m' =
        some m := if_neg (Nat.not_lt.mpr hle)
    rw [List.foldl_cons, hstays]
    exact ih hrest

/-- Nothing is missed by stopping at a match that starts where the search does, if no match starts
before that place. -/
theorem findFrom_eq_foldl (h : ∀ m ∈ matchesFrom text pos index patterns, pos ≤ m.found.start) :
    findFrom text pos index best patterns =
      (matchesFrom text pos index patterns).foldl
        (List.argAux fun b c => b.found.start < c.found.start) best := by
  induction patterns generalizing index best with
  | nil => rfl
  | cons p rest ih =>
    rw [findFrom]
    cases hfind : p.bind (·.find? text pos) with
    | none =>
      have hmatches : matchesFrom text pos index (p :: rest) = matchesFrom text pos (index + 1) rest := by
        rw [matchesFrom, List.zipIdx_cons, List.filterMap_cons_none (by rw [hfind]; rfl)]
        rfl
      rw [hmatches] at h ⊢
      exact ih h
    | some found =>
      have hmatches : matchesFrom text pos index (p :: rest) =
          ⟨index, found⟩ :: matchesFrom text pos (index + 1) rest := by
        rw [matchesFrom, List.zipIdx_cons, List.filterMap_cons_some (by rw [hfind]; rfl)]
        rfl
      rw [hmatches] at h ⊢
      obtain ⟨_, hrest⟩ := List.forall_mem_cons.mp h
      have hbest : List.argAux (fun b c => b.found.start < c.found.start) best ⟨index, found⟩ =
          if best.all fun b => found.start < b.found.start then some ⟨index, found⟩ else best := by
        cases best with
        | none => rfl
        | some b => simp [List.argAux]
      rw [List.foldl_cons, hbest]
      dsimp only
      split
      · split
        · -- the search is over, and what is left does not start earlier
          rename_i hpos
          refine (foldl_argAux_of_le fun m' hm' => ?_).symm
          rw [beq_iff_eq.mp hpos]
          exact hrest m' hm'
        · exact ih hrest
      · exact ih hrest

/-- **A scanner** finds what a search of all its slots does, the first of the matches that start first. -/
theorem findNext?_eq_argmin (h : ∀ i m, s.slotMatch? text pos i = some m → pos ≤ m.start) :
    s.findNext? text pos = (s.slotMatches text pos).argmin (·.found.start) :=
  findFrom_eq_foldl fun m hm => h m.index m.found (mem_slotMatches_iff.mp hm)

theorem findNext?_eq_none_iff (h : ∀ i m, s.slotMatch? text pos i = some m → pos ≤ m.start) :
    s.findNext? text pos = none ↔ ∀ i, s.slotMatch? text pos i = none := by
  rw [findNext?_eq_argmin h, List.argmin_eq_none, List.eq_nil_iff_forall_not_mem]
  constructor
  · intro hnone i
    rw [Option.eq_none_iff_forall_ne_some]
    exact fun m hm => hnone ⟨i, m⟩ (mem_slotMatches_iff.mpr hm)
  · intro hnone m hm
    rw [mem_slotMatches_iff, hnone] at hm
    cases hm

/-- The match that is found starts first, and no slot before it has one that starts there. -/
theorem findNext?_eq_some_iff (h : ∀ i m, s.slotMatch? text pos i = some m → pos ≤ m.start) :
    s.findNext? text pos = some m ↔ s.slotMatch? text pos m.index = some m.found ∧
      ∀ i found, s.slotMatch? text pos i = some found →
        m.found.start ≤ found.start ∧ (found.start = m.found.start → m.index ≤ i) := by
  rw [findNext?_eq_argmin h, List.argmin_eq_some_iff]
  -- of matches that start together the list prefers the one that stands first, which is of a lower slot
  constructor
  · rintro ⟨hm, hstart, hindex⟩
    refine ⟨mem_slotMatches_iff.mp hm, fun i found hi => ?_⟩
    have hmem : (⟨i, found⟩ : ScanMatch) ∈ s.slotMatches text pos := mem_slotMatches_iff.mpr hi
    exact ⟨hstart _ hmem, fun heq =>
      (idxOf_slotMatches_le_iff hm hmem).mp (hindex _ hmem (Nat.le_of_eq heq))⟩
  · rintro ⟨hm, hfirst⟩
    have hmem : m ∈ s.slotMatches text pos := mem_slotMatches_iff.mpr hm
    refine ⟨hmem, fun m' hm' => (hfirst _ _ (mem_slotMatches_iff.mp hm')).1, fun m' hm' hle => ?_⟩
    obtain ⟨hstart, hindex⟩ := hfirst _ _ (mem_slotMatches_iff.mp hm')
    exact (idxOf_slotMatches_le_iff hmem hm').mpr (hindex (Nat.le_antisymm hle hstart))

end Scanner

namespace Tokenize

variable {options : EngineOptions} {spec : GrammarSpec} {g : Grammar} {text : Array Char} {pos : Nat}
  {top : Frame}

/-! ### What can match next -/

/-- What can match next in a region: what a slot of its scanner is for, or its end. -/
inductive Entrant where
  | slot (i : Nat)
  | stop
  deriving DecidableEq

namespace Entrant

/-- The match of an entrant, from a place on. -/
def match? (g : Grammar) (text : Array Char) (pos : Nat) (top : Frame) : Entrant → Option Match
  | slot i => (g.scanner? top.rule).bind (·.scanner.slotMatch? text pos i)
  | stop => stopMatch? text pos top

/-- What a match of an entrant means: the rule of its slot applies, or the region ends. -/
def target? (g : Grammar) (top : Frame) : Entrant → Option Target
  | slot i => (g.scanner? top.rule).bind fun s => s.rules[i]?.map Target.rule
  | stop => some .stop

/-- Which of two entrants is preferred if their matches start together. The end of a region comes before
all slots, or after them. -/
def Precedes (last : Bool) : Entrant → Entrant → Prop
  | slot i, slot j => i < j
  | slot _, stop => last = true
  | stop, slot _ => last = false
  | stop, stop => False

theorem match?_slot {s : RuleScanner} (hs : g.scanner? top.rule = some s) (i : Nat) :
    (slot i).match? g text pos top = s.scanner.slotMatch? text pos i := by
  rw [match?, hs, Option.bind_some]

theorem target?_slot {s : RuleScanner} (hs : g.scanner? top.rule = some s) (i : Nat) :
    (slot i).target? g top = s.rules[i]?.map Target.rule := by
  rw [target?, hs, Option.bind_some]

theorem Precedes.asymm {last : Bool} {a b : Entrant} (h : a.Precedes last b) :
    ¬ b.Precedes last a := by
  cases a <;> cases b <;> simp_all [Precedes]
  omega

end Entrant

variable {e : Entrant} {m : Match}

/-- A match of an entrant that starts first, and of those that start there is the one preferred. -/
structure Wins (g : Grammar) (text : Array Char) (pos : Nat) (top : Frame) (e : Entrant)
    (m : Match) : Prop where
  match_eq : e.match? g text pos top = some m
  least : ∀ (other : Entrant) (m' : Match), other.match? g text pos top = some m' →
    m.start ≤ m'.start
  preferred : ∀ (other : Entrant) (m' : Match), other.match? g text pos top = some m' →
    m'.start = m.start → other = e ∨ e.Precedes (stopsLast g top) other

theorem Wins.unique {e' : Entrant} {m' : Match} (h : Wins g text pos top e m)
    (h' : Wins g text pos top e' m') : e' = e ∧ m' = m := by
  have hstart : m'.start = m.start :=
    Nat.le_antisymm (h'.least e m h.match_eq) (h.least e' m' h'.match_eq)
  have heq : e' = e := by
    rcases h.preferred e' m' h'.match_eq hstart with heq | hprecedes
    · exact heq
    · rcases h'.preferred e m h.match_eq hstart.symm with heq | hprecedes'
      · exact heq.symm
      · exact absurd hprecedes' hprecedes.asymm
  subst heq
  exact ⟨rfl, Option.some.inj (h'.match_eq.symm.trans h.match_eq)⟩

theorem wins_slot {i : Nat} (hm : (Entrant.slot i).match? g text pos top = some m)
    (hslots : ∀ j m', (Entrant.slot j).match? g text pos top = some m' →
      m.start ≤ m'.start ∧ (m'.start = m.start → i ≤ j))
    (hstop : ∀ m', stopMatch? text pos top = some m' →
      m.start ≤ m'.start ∧ (m'.start = m.start → stopsLast g top = true)) :
    Wins g text pos top (.slot i) m where
  match_eq := hm
  least
    | .slot j, m', hm' => (hslots j m' hm').1
    | .stop, m', hm' => (hstop m' hm').1
  preferred
    | .slot j, m', hm', hstart => by
      rcases Nat.eq_or_lt_of_le ((hslots j m' hm').2 hstart) with heq | hlt
      · exact Or.inl (congrArg Entrant.slot heq.symm)
      · exact Or.inr hlt
    | .stop, m', hm', hstart => Or.inr ((hstop m' hm').2 hstart)

theorem wins_stop (hm : stopMatch? text pos top = some m)
    (hslots : ∀ j m', (Entrant.slot j).match? g text pos top = some m' →
      m.start ≤ m'.start ∧ (m'.start = m.start → stopsLast g top = false)) :
    Wins g text pos top .stop m where
  match_eq := hm
  least
    | .slot j, m', hm' => (hslots j m' hm').1
    | .stop, m', hm' => by
      rw [Option.some.inj (hm.symm.trans hm')]
  preferred
    | .slot j, m', hm', hstart => Or.inr ((hslots j m' hm').2 hstart)
    | .stop, _, _, _ => Or.inl rfl

/-! ### The match that is taken -/

/-- Each slot is for a rule. -/
theorem exists_target (hg : Grammar.compile options spec = .ok g)
    (hm : e.match? g text pos top = some m) : ∃ target, e.target? g top = some target := by
  cases e with
  | stop => exact ⟨_, rfl⟩
  | slot i =>
    obtain ⟨s, hs, hmatch⟩ := Option.bind_eq_some_iff.mp hm
    obtain ⟨p, hp, _⟩ := Option.bind_eq_some_iff.mp hmatch
    obtain ⟨_, _, hscanner⟩ := Grammar.exists_scanner_of_scanner? hg hs
    have hslot := Option.join_eq_some_iff.mp hp
    rw [Flatten.patterns_of_scanner hscanner, List.getElem?_map] at hslot
    obtain ⟨id, hid, _⟩ := Option.map_eq_some_iff.mp hslot
    exact ⟨.rule id, by rw [Entrant.target?_slot hs, hid, Option.map_some]⟩

/-- No entrant has a match that starts before the place from which it is searched. -/
def SearchesOn (g : Grammar) (text : Array Char) (pos : Nat) (top : Frame) : Prop :=
  ∀ (e : Entrant) (m : Match), e.match? g text pos top = some m → pos ≤ m.start

theorem SearchesOn.slots (h : SearchesOn g text pos top) {s : RuleScanner}
    (hs : g.scanner? top.rule = some s) :
    ∀ i m, s.scanner.slotMatch? text pos i = some m → pos ≤ m.start :=
  fun i m hm => h (.slot i) m ((Entrant.match?_slot hs i).trans hm)

theorem match?_slot_eq_none (hg : Grammar.compile options spec = .ok g)
    (hsearch : SearchesOn g text pos top) (h : childMatch? g text pos top = none) (i : Nat) :
    (Entrant.slot i).match? g text pos top = none := by
  cases hs : g.scanner? top.rule with
  | none => rw [Entrant.match?, hs, Option.bind_none]
  | some s =>
    rw [Entrant.match?_slot hs]
    refine (Scanner.findNext?_eq_none_iff (hsearch.slots hs)).mp ?_ i
    -- what the scanner finds would be a match of a slot, which is for a rule
    rw [Option.eq_none_iff_forall_ne_some]
    intro found hfound
    have hmatch := ((Scanner.findNext?_eq_some_iff (hsearch.slots hs)).mp hfound).1
    obtain ⟨target, htarget⟩ := exists_target hg ((Entrant.match?_slot hs _).trans hmatch)
    rw [Entrant.target?_slot hs] at htarget
    obtain ⟨id, hid, _⟩ := Option.map_eq_some_iff.mp htarget
    simp [childMatch?, hs, hfound, hid] at h

theorem exists_slot_of_childMatch? (hsearch : SearchesOn g text pos top) {id : RuleId}
    (h : childMatch? g text pos top = some (id, m)) :
    ∃ i, (Entrant.slot i).match? g text pos top = some m ∧
      (Entrant.slot i).target? g top = some (.rule id) ∧
      ∀ j m', (Entrant.slot j).match? g text pos top = some m' →
        m.start ≤ m'.start ∧ (m'.start = m.start → i ≤ j) := by
  simp only [childMatch?, Option.bind_eq_bind, Option.pure_def, Option.bind_eq_some_iff,
    Option.some.injEq, Prod.mk.injEq] at h
  obtain ⟨s, hs, found, hfound, _, hid, rfl, rfl⟩ := h
  obtain ⟨hmatch, hfirst⟩ := (Scanner.findNext?_eq_some_iff (hsearch.slots hs)).mp hfound
  refine ⟨found.index, (Entrant.match?_slot hs _).trans hmatch, ?_, fun j m' hm' => ?_⟩
  · rw [Entrant.target?_slot hs, hid, Option.map_some]
  · rw [Entrant.match?_slot hs] at hm'
    exact hfirst j m' hm'

/-- What is taken is the match of an entrant that wins. -/
theorem exists_wins_of_nextMatch? (hg : Grammar.compile options spec = .ok g)
    (hsearch : SearchesOn g text pos top) {target : Target}
    (h : nextMatch? g text pos top = some (target, m)) :
    ∃ e, Wins g text pos top e m ∧ e.target? g top = some target := by
  rw [nextMatch?] at h
  cases hchild : childMatch? g text pos top with
  | none =>
    cases hstop : stopMatch? text pos top with
    | none => simp [hchild, hstop] at h
    | some stop =>
      simp only [hchild, hstop, Option.some.injEq, Prod.mk.injEq] at h
      obtain ⟨rfl, rfl⟩ := h
      refine ⟨.stop, wins_stop hstop fun j m' hm' => ?_, rfl⟩
      rw [match?_slot_eq_none hg hsearch hchild] at hm'
      cases hm'
  | some child =>
    obtain ⟨id, child⟩ := child
    obtain ⟨i, hmatch, htarget, hslots⟩ := exists_slot_of_childMatch? hsearch hchild
    cases hstop : stopMatch? text pos top with
    | none =>
      simp only [hchild, hstop, Option.some.injEq, Prod.mk.injEq] at h
      obtain ⟨rfl, rfl⟩ := h
      refine ⟨.slot i, wins_slot hmatch hslots fun m' hm' => ?_, htarget⟩
      rw [hstop] at hm'
      cases hm'
    | some stop =>
      simp only [hchild, hstop, Option.some.injEq] at h
      have hstopped : ∀ m', stopMatch? text pos top = some m' → m' = stop := by
        intro m' hm'
        exact Option.some.inj (hm'.symm.trans hstop)
      -- in each case the comparison of the starts is strict just for the one that is not preferred
      cases hlast : stopsLast g top with
      | false =>
        rw [hlast] at h
        by_cases hle : stop.start ≤ child.start
        · obtain ⟨rfl, rfl⟩ := Prod.mk.inj ((if_pos hle).symm.trans h)
          exact ⟨.stop, wins_stop hstop fun j m' hm' =>
            ⟨Nat.le_trans hle (hslots j m' hm').1, fun _ => hlast⟩, rfl⟩
        · obtain ⟨rfl, rfl⟩ := Prod.mk.inj ((if_neg hle).symm.trans h)
          refine ⟨.slot i, wins_slot hmatch hslots fun m' hm' => ?_, htarget⟩
          rw [hstopped m' hm']
          exact ⟨Nat.le_of_not_le hle, fun heq => absurd (Nat.le_of_eq heq) hle⟩
      | true =>
        rw [hlast] at h
        by_cases hlt : stop.start < child.start
        · obtain ⟨rfl, rfl⟩ := Prod.mk.inj ((if_pos hlt).symm.trans h)
          refine ⟨.stop, wins_stop hstop fun j m' hm' => ?_, rfl⟩
          have hbefore : stop.start < m'.start := Nat.lt_of_lt_of_le hlt (hslots j m' hm').1
          exact ⟨Nat.le_of_lt hbefore, fun heq => absurd heq (Nat.ne_of_gt hbefore)⟩
        · obtain ⟨rfl, rfl⟩ := Prod.mk.inj ((if_neg hlt).symm.trans h)
          refine ⟨.slot i, wins_slot hmatch hslots fun m' hm' => ?_, htarget⟩
          rw [hstopped m' hm']
          exact ⟨Nat.not_lt.mp hlt, fun _ => hlast⟩

theorem match?_eq_none_of_nextMatch? (hg : Grammar.compile options spec = .ok g)
    (hsearch : SearchesOn g text pos top) (h : nextMatch? g text pos top = none) (e : Entrant) :
    e.match? g text pos top = none := by
  rw [nextMatch?] at h
  cases hchild : childMatch? g text pos top with
  | some child => cases hstop : stopMatch? text pos top <;> simp [hchild, hstop] at h
  | none =>
    cases hstop : stopMatch? text pos top with
    | some stop => simp [hchild, hstop] at h
    | none =>
      cases e with
      | slot i => exact match?_slot_eq_none hg hsearch hchild i
      | stop => exact hstop

/-- **What is taken next** in a region is the match of the entrant that wins, of all slots of its scanner
and its end, and with it the rule of that slot. There is none just if no entrant has a match. A slot
that has a match is for a rule, and the scanner finds what a search of all slots does. -/
theorem nextMatch?_wins (hg : Grammar.compile options spec = .ok g)
    (hsearch : SearchesOn g text pos top) :
    (nextMatch? g text pos top = none ↔ ∀ e : Entrant, e.match? g text pos top = none) ∧
    (∀ target m, nextMatch? g text pos top = some (target, m) ↔
      ∃ e, Wins g text pos top e m ∧ e.target? g top = some target) ∧
    (∀ (e : Entrant) m, e.match? g text pos top = some m → ∃ target, e.target? g top = some target) ∧
    ∀ s, g.scanner? top.rule = some s → s.scanner.findNext? text pos =
      (s.scanner.slotMatches text pos).argmin (·.found.start) := by
  have htaken : ∀ target m, nextMatch? g text pos top = some (target, m) →
      ∃ e, Wins g text pos top e m ∧ e.target? g top = some target :=
    fun _ _ => exists_wins_of_nextMatch? hg hsearch
  refine ⟨⟨match?_eq_none_of_nextMatch? hg hsearch, fun hnone => ?_⟩,
    fun target m => ⟨htaken target m, ?_⟩, fun _ _ => exists_target hg,
    fun _ hs => Scanner.findNext?_eq_argmin (hsearch.slots hs)⟩
  · rw [Option.eq_none_iff_forall_ne_some]
    rintro ⟨target, m⟩ hm
    obtain ⟨e, hwins, _⟩ := htaken target m hm
    exact absurd (hwins.match_eq.symm.trans (hnone e)) (Option.some_ne_none m)
  · -- what is taken wins as well, and only one entrant wins
    rintro ⟨e, hwins, htarget⟩
    cases hnext : nextMatch? g text pos top with
    | none =>
      have hnone := match?_eq_none_of_nextMatch? hg hsearch hnext e
      exact absurd (hwins.match_eq.symm.trans hnone) (Option.some_ne_none m)
    | some taken =>
      obtain ⟨e', hwins', htarget'⟩ := htaken taken.1 taken.2 hnext
      obtain ⟨rfl, hmatch⟩ := hwins.unique hwins'
      have heq : taken.1 = target := Option.some.inj (htarget'.symm.trans htarget)
      rw [← heq, ← hmatch]

/-- A file with two regions that an `x` ends and in which two patterns look for an `x`. In the second one
the end comes last. -/
def tiedSpec : GrammarSpec where
  scopeName := "source.tied"
  patterns := [
    { beginPattern := some "<", endPattern := some "x"
      patterns := some [{ matchPattern := some "x" }, { matchPattern := some "x" }] },
    { beginPattern := some "-", endPattern := some "x", applyEndPatternLast := some (.bool true)
      patterns := some [{ matchPattern := some "x" }, { matchPattern := some "x" }] }]

/-- What is made of it. -/
def tied : Grammar where
  scopeName := "source.tied"
  name := none
  fileTypes := []
  rules := #[{ id := 0, kind := .group [1, 4] },
    { id := 1, kind := .region (Pattern.compile? {} "<") {}
        (.fixed "x" (Pattern.compile? {} "x")) {} false [2, 3] },
    { id := 2, kind := .single (Pattern.compile? {} "x") {} },
    { id := 3, kind := .single (Pattern.compile? {} "x") {} },
    { id := 4, kind := .region (Pattern.compile? {} "-") {}
        (.fixed "x" (Pattern.compile? {} "x")) {} true [5, 6] },
    { id := 5, kind := .single (Pattern.compile? {} "x") {} },
    { id := 6, kind := .single (Pattern.compile? {} "x") {} }]
  scanners := #[some ⟨⟨[Pattern.compile? {} "<", Pattern.compile? {} "-"]⟩, [1, 4]⟩,
    some ⟨⟨[Pattern.compile? {} "x", Pattern.compile? {} "x"]⟩, [2, 3]⟩, none, none,
    some ⟨⟨[Pattern.compile? {} "x", Pattern.compile? {} "x"]⟩, [5, 6]⟩, none, none]
  options := {}

theorem compile_tiedSpec : Grammar.compile {} tiedSpec = .ok tied := by
  rw [Compile.compile_eq_compute]
  rfl

/-- A region of such a file that a rule opened. -/
def tiedFrame (rule : RuleId) : Frame where
  rule := rule
  stop := some ⟨"x", Pattern.compile? {} "x"⟩
  nameScopes := ["source.tied"]
  contentScopes := ["source.tied"]

theorem searchesOn_tied {rule : RuleId} (hrule : rule = 1 ∨ rule = 4) :
    SearchesOn tied #['-', 'x', '\n'] 1 (tiedFrame rule) := by
  have hfind : (Pattern.compile? {} "x").bind (·.find? #['-', 'x', '\n'] 1) =
      some ⟨⟨1, 2⟩, []⟩ := by decide +kernel
  have hpatterns : ∀ s, tied.scanner? rule = some s →
      s.scanner.patterns = [Pattern.compile? {} "x", Pattern.compile? {} "x"] := by
    rcases hrule with rfl | rfl
    · rintro s ⟨⟩
      rfl
    · rintro s ⟨⟩
      rfl
  rintro (i | _) m hm
  · obtain ⟨s, hs, hmatch⟩ := Option.bind_eq_some_iff.mp hm
    obtain ⟨p, hp, hfound⟩ := Option.bind_eq_some_iff.mp hmatch
    have hmem := List.mem_of_getElem? (Option.join_eq_some_iff.mp hp)
    rw [hpatterns s hs] at hmem
    have hx : some p = Pattern.compile? {} "x" := by simpa using hmem
    rw [← hx, Option.bind_some, hfound] at hfind
    rw [Option.some.inj hfind]
    decide
  · rw [← Option.some.inj (hfind.symm.trans hm)]
    decide

/-- After the first character an `x` ends the one region, and in the other one the pattern that is first
looks for it. -/
theorem nextMatch?_wins_tied :
    (∃ e, Wins tied #['-', 'x', '\n'] 1 (tiedFrame 1) e ⟨⟨1, 2⟩, []⟩ ∧
      e.target? tied (tiedFrame 1) = some .stop) ∧
    ∃ e, Wins tied #['-', 'x', '\n'] 1 (tiedFrame 4) e ⟨⟨1, 2⟩, []⟩ ∧
      e.target? tied (tiedFrame 4) = some (.rule 5) := by
  obtain ⟨_, hstop, _⟩ := nextMatch?_wins compile_tiedSpec (searchesOn_tied (Or.inl rfl))
  obtain ⟨_, hslot, _⟩ := nextMatch?_wins compile_tiedSpec (searchesOn_tied (Or.inr rfl))
  exact ⟨(hstop _ _).mp (by decide +kernel), (hslot _ _).mp (by decide +kernel)⟩

end Tokenize

end Tincture
