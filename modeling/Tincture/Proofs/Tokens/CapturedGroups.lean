import Mathlib.Data.List.Basic
import Tincture.Pattern.ByteScan
import Tincture.Proofs.Tokens.Painted

/-!
# Groups inside each other

A place of a match lies in some of its groups, and gets the names of all of them. The painter goes
through the groups once and keeps those open that it is in, the innermost first. What a place ahead
will get is told by the open groups that go on behind it (`scopesAhead`) and by the groups that are
still to come (`scopesAt?_paintGroups`); for this it is enough that of two groups the later one lies in
the earlier one or behind it.

So each place of a match, and each byte of it, has the scopes of the match and then the names of the
groups around it, in the order of the groups (`scopesAt?_captures`).
-/

namespace Tincture

/-! ### Groups of a match -/

namespace Span

/-- A place lies between the two places of a stretch. -/
def contains (s : Span) (place : Nat) : Bool :=
  s.start ≤ place && place < s.stop

/-- The stretch lies inside another. -/
def Within (s t : Span) : Prop :=
  t.start ≤ s.start ∧ s.stop ≤ t.stop

theorem contains_iff {s : Span} {place : Nat} :
    s.contains place = true ↔ s.start ≤ place ∧ place < s.stop := by
  simp [contains]

end Span

namespace Match

/-- Of groups with their names, those that have a name and took some text. -/
def taken (groups : List (Option String × Option Span)) : List (String × Span) :=
  groups.filterMap fun
    | (some name, some s) => if s.isEmpty then none else some (name, s)
    | _ => none

/-- The groups of a match that have a name and took some text, in their order. -/
def namedGroups (m : Match) (names : CaptureNames) : List (String × Span) :=
  taken (names.toList.zip m.captures)

/-- Of two groups the later one lies in the earlier one or behind it. -/
def Nested (groups : List (String × Span)) : Prop :=
  groups.Pairwise fun a b => b.2.Within a.2 ∨ a.2.stop ≤ b.2.start

/-- The scopes that the groups around a place add to it, in the order of the groups. -/
def scopesAround (expand : String → List String) (groups : List (String × Span)) (place : Nat) :
    List String :=
  (groups.filter (·.2.contains place)).flatMap fun group => expand group.1

variable {expand : String → List String} {groups : List (String × Span)} {name : String} {s : Span}
  {place : Nat}

theorem start_lt_of_mem_taken {groups : List (Option String × Option Span)} {group : String × Span}
    (h : group ∈ taken groups) : group.2.start < group.2.stop := by
  obtain ⟨⟨name?, s?⟩, _, htaken⟩ := List.mem_filterMap.mp h
  cases name? with
  | none => cases htaken
  | some name =>
    cases s? with
    | none => cases htaken
    | some s =>
      dsimp only at htaken
      split at htaken
      · cases htaken
      · rename_i hempty
        obtain rfl := Option.some.inj htaken
        simpa [Span.isEmpty] using hempty

theorem scopesAround_cons_of_contains (h : s.contains place = true) :
    scopesAround expand ((name, s) :: groups) place = expand name ++ scopesAround expand groups place := by
  simp [scopesAround, h]

theorem scopesAround_cons_of_not_contains (h : ¬ s.contains place = true) :
    scopesAround expand ((name, s) :: groups) place = scopesAround expand groups place := by
  simp [scopesAround, h]

/-- Groups that start behind a place add nothing to it. -/
theorem scopesAround_eq_nil (h : ∀ group ∈ groups, place < group.2.start) :
    scopesAround expand groups place = [] := by
  have hnone : ∀ group ∈ groups, ¬ group.2.contains place = true := by
    intro group hgroup hcontains
    have hle := (Span.contains_iff.mp hcontains).1
    have hlt := h group hgroup
    omega
  rw [scopesAround, List.filter_eq_nil_iff.mpr hnone]
  rfl

end Match

namespace Paint

variable {p : Paint} {base : List String} {opened : List OpenGroup} {place : Nat}

/-! ### What a place was painted with -/

/-- The scopes of the stroke that goes over a place, if it was painted. -/
def scopesAt? (p : Paint) (place : Nat) : Option (List String) :=
  if place < p.stop then (p.strokes.find? (·.column ≤ place)).map (·.scopes) else none

@[simp] theorem stop_fill (p : Paint) (scopes : List String) (stop : Nat) :
    (p.fill scopes stop).stop = max p.stop stop := by
  unfold fill
  split
  · rename_i hle
    exact (Nat.max_eq_left hle).symm
  · rename_i hlt
    exact (Nat.max_eq_right (Nat.le_of_not_le hlt)).symm

/-- A stroke changes nothing but the places from where the paint ended to its own end. -/
theorem scopesAt?_fill (p : Paint) (scopes : List String) (stop place : Nat) :
    (p.fill scopes stop).scopesAt? place =
      if p.stop ≤ place ∧ place < stop then some scopes else p.scopesAt? place := by
  unfold fill
  split
  · rename_i hle
    have hnot : ¬ (p.stop ≤ place ∧ place < stop) := by omega
    rw [if_neg hnot]
  · rename_i hlt
    unfold scopesAt?
    by_cases hbefore : place < p.stop
    · -- the new stroke starts behind the place
      have hnew : ¬ p.stop ≤ place := by omega
      have hstop : place < stop := by omega
      simp [hbefore, hstop, hnew, List.find?_cons_of_neg]
    · have hold : p.stop ≤ place := by omega
      by_cases hstop : place < stop
      · simp [hold, hstop]
      · simp [hbefore, hstop]

/-! ### Open groups -/

/-- What a place ahead will get from the open groups: the scopes of the innermost one that goes on
behind it. -/
def scopesAhead (base : List String) (opened : List OpenGroup) (place : Nat) : List String :=
  innermost base (opened.dropWhile (·.2 ≤ place))

theorem scopesAhead_cons_of_lt {scopes : List String} {stop : Nat} (h : place < stop) :
    scopesAhead base ((scopes, stop) :: opened) place = scopes := by
  have hnot : ¬ stop ≤ place := by omega
  simp [scopesAhead, hnot, innermost]

theorem scopesAhead_cons_of_le {scopes : List String} {stop : Nat} (h : stop ≤ place) :
    scopesAhead base ((scopes, stop) :: opened) place = scopesAhead base opened place := by
  simp [scopesAhead, h]

/-- Groups that were closed before a place are not around it. -/
theorem scopesAhead_dropWhile {start : Nat} (h : start ≤ place) :
    scopesAhead base (opened.dropWhile (·.2 ≤ start)) place = scopesAhead base opened place := by
  induction opened with
  | nil => rfl
  | cons o rest ih =>
    obtain ⟨scopes, stop⟩ := o
    by_cases hstop : stop ≤ start
    · have hle : stop ≤ place := by omega
      rw [scopesAhead_cons_of_le hle, ← ih]
      simp [hstop]
    · simp [hstop]

/-- Two places with no end of an open group between them lie in the same open groups. -/
theorem scopesAhead_congr {place' : Nat} (h : ∀ o ∈ opened, o.2 ≤ place ↔ o.2 ≤ place') :
    scopesAhead base opened place = scopesAhead base opened place' := by
  induction opened with
  | nil => rfl
  | cons o rest ih =>
    obtain ⟨scopes, stop⟩ := o
    obtain ⟨ho, hrest⟩ := List.forall_mem_cons.mp h
    by_cases hstop : stop ≤ place
    · rw [scopesAhead_cons_of_le hstop, scopesAhead_cons_of_le (ho.mp hstop), ih hrest]
    · have hlt : place < stop := Nat.lt_of_not_le hstop
      have hlt' : place' < stop := Nat.lt_of_not_le fun hle => hstop (ho.mpr hle)
      rw [scopesAhead_cons_of_lt hlt, scopesAhead_cons_of_lt hlt']

theorem closeUpTo_fst (start : Nat) (opened : List OpenGroup) (p : Paint) :
    (closeUpTo start opened p).1 = opened.dropWhile (·.2 ≤ start) := by
  induction opened generalizing p with
  | nil => rfl
  | cons o rest ih =>
    unfold closeUpTo
    by_cases h : start < o.2
    · have hnot : ¬ o.2 ≤ start := by omega
      simp [h, hnot]
    · have hle : o.2 ≤ start := by omega
      simp [h, hle, ih]

/-- The scopes of a place ahead are those that are left when all groups before it are closed. -/
theorem innermost_closeUpTo (base : List String) (start : Nat) (opened : List OpenGroup) (p : Paint) :
    innermost base (closeUpTo start opened p).1 = scopesAhead base opened start := by
  rw [closeUpTo_fst]
  rfl

theorem stop_closeUpTo_le (start : Nat) (opened : List OpenGroup) (p : Paint) :
    (closeUpTo start opened p).2.stop ≤ max p.stop start := by
  induction opened generalizing p with
  | nil => exact Nat.le_max_left _ _
  | cons o rest ih =>
    unfold closeUpTo
    split
    · exact Nat.le_max_left _ _
    · rename_i hlt
      have hrest := ih (p.fill o.1 o.2)
      rw [stop_fill] at hrest
      omega

/-- Closing the groups that end before a place, and then filling up to it, gives all places on the way
what the open groups have for them. -/
theorem scopesAt?_closeUpTo (base : List String) (start : Nat) (opened : List OpenGroup) (p : Paint)
    (place : Nat) :
    ((closeUpTo start opened p).2.fill (scopesAhead base opened start) start).scopesAt? place =
      if p.stop ≤ place ∧ place < start then some (scopesAhead base opened place)
      else p.scopesAt? place := by
  induction opened generalizing p with
  | nil => exact scopesAt?_fill p base start place
  | cons o rest ih =>
    obtain ⟨scopes, stop⟩ := o
    unfold closeUpTo
    by_cases hopen : start < stop
    · rw [if_pos hopen, scopesAhead_cons_of_lt hopen, scopesAt?_fill]
      by_cases hplace : p.stop ≤ place ∧ place < start
      · have hlt : place < stop := by omega
        rw [if_pos hplace, if_pos hplace, scopesAhead_cons_of_lt hlt]
      · rw [if_neg hplace, if_neg hplace]
    · have hle : stop ≤ start := Nat.le_of_not_lt hopen
      rw [if_neg hopen, scopesAhead_cons_of_le hle, ih, stop_fill, scopesAt?_fill]
      by_cases hplace : place < stop
      · -- the place lies in the group that is closed here
        have hnot : ¬ (max p.stop stop ≤ place ∧ place < start) := by omega
        have hiff : (p.stop ≤ place ∧ place < stop) ↔ (p.stop ≤ place ∧ place < start) := by omega
        rw [if_neg hnot, if_congr hiff rfl rfl, scopesAhead_cons_of_lt hplace]
      · have hnot : ¬ (p.stop ≤ place ∧ place < stop) := by omega
        have hiff : (max p.stop stop ≤ place ∧ place < start) ↔
            (p.stop ≤ place ∧ place < start) := by omega
        rw [if_neg hnot, if_congr hiff rfl rfl, scopesAhead_cons_of_le (Nat.le_of_not_lt hplace)]

/-- Closing all groups is closing those that end before a place behind all of them. -/
theorem closeUpTo_eq_closeAll {limit : Nat} (h : ∀ o ∈ opened, o.2 ≤ limit) (p : Paint) :
    closeUpTo limit opened p = ([], closeAll opened p) := by
  induction opened generalizing p with
  | nil => rfl
  | cons o rest ih =>
    obtain ⟨ho, hrest⟩ := List.forall_mem_cons.mp h
    unfold closeUpTo
    rw [if_neg (Nat.not_lt.mpr ho), ih hrest]
    rfl

/-! ### Groups that are still to come -/

/-- What holds between the paint, the open groups and those that are still to come: these come in
order, in the match and behind what was painted, and each lies in an open group or behind it. -/
structure InOrder (limit : Nat) (p : Paint) (opened : List OpenGroup)
    (groups : List (String × Span)) : Prop where
  opened_le : ∀ o ∈ opened, o.2 ≤ limit
  start_lt : ∀ group ∈ groups, group.2.start < group.2.stop
  le_start : ∀ group ∈ groups, p.stop ≤ group.2.start
  stop_le : ∀ group ∈ groups, group.2.stop ≤ limit
  fits : ∀ o ∈ opened, ∀ group ∈ groups, group.2.stop ≤ o.2 ∨ o.2 ≤ group.2.start
  nested : Match.Nested groups

namespace InOrder

variable {limit : Nat} {name : String} {s : Span} {groups : List (String × Span)}

/-- No group that is still to come starts before the next one. -/
theorem start_le (h : InOrder limit p opened ((name, s) :: groups)) :
    ∀ group ∈ groups, s.start ≤ group.2.start := by
  intro group hgroup
  have hs : s.start < s.stop := h.start_lt _ List.mem_cons_self
  rcases (List.pairwise_cons.mp h.nested).1 group hgroup with hwithin | hbehind
  · exact hwithin.1
  · exact Nat.le_trans (Nat.le_of_lt hs) hbehind

/-- Inside the next group the same groups are open as where it starts. -/
theorem scopesAhead_eq (h : InOrder limit p opened ((name, s) :: groups))
    (hplace : s.contains place = true) :
    scopesAhead base opened place = scopesAhead base opened s.start := by
  obtain ⟨hstart, hstop⟩ := Span.contains_iff.mp hplace
  refine scopesAhead_congr fun o ho => ?_
  have hfits : s.stop ≤ o.2 ∨ o.2 ≤ s.start := h.fits o ho _ List.mem_cons_self
  omega

/-- The next group is opened, where those that end before it were closed. -/
theorem next (h : InOrder limit p opened ((name, s) :: groups)) {q : Paint} (hq : q.stop ≤ s.start)
    (scopes : List String) :
    InOrder limit q ((scopes, s.stop) :: opened.dropWhile (·.2 ≤ s.start)) groups := by
  have hsub : ∀ o ∈ opened.dropWhile (·.2 ≤ s.start), o ∈ opened :=
    fun o ho => (List.dropWhile_sublist _).subset ho
  exact {
    opened_le := List.forall_mem_cons.mpr
      ⟨h.stop_le _ List.mem_cons_self, fun o ho => h.opened_le o (hsub o ho)⟩
    start_lt := fun group hgroup => h.start_lt group (List.mem_cons_of_mem _ hgroup)
    le_start := fun group hgroup => Nat.le_trans hq (h.start_le group hgroup)
    stop_le := fun group hgroup => h.stop_le group (List.mem_cons_of_mem _ hgroup)
    fits := by
      refine List.forall_mem_cons.mpr ⟨fun group hgroup => ?_, fun o ho group hgroup => ?_⟩
      · rcases (List.pairwise_cons.mp h.nested).1 group hgroup with hwithin | hbehind
        · exact Or.inl hwithin.2
        · exact Or.inr hbehind
      · exact h.fits o (hsub o ho) group (List.mem_cons_of_mem _ hgroup)
    nested := (List.pairwise_cons.mp h.nested).2 }

/-- Opening the next group changes nothing in what the places from its start on will get. -/
theorem scopesAhead_next (h : InOrder limit p opened ((name, s) :: groups)) (hplace : s.start ≤ place)
    (expand : String → List String) :
    scopesAhead base ((scopesAhead base opened s.start ++ expand name, s.stop) ::
        opened.dropWhile (·.2 ≤ s.start)) place ++ Match.scopesAround expand groups place =
      scopesAhead base opened place ++ Match.scopesAround expand ((name, s) :: groups) place := by
  by_cases hstop : place < s.stop
  · have hcontains : s.contains place = true := Span.contains_iff.mpr ⟨hplace, hstop⟩
    rw [scopesAhead_cons_of_lt hstop, Match.scopesAround_cons_of_contains hcontains,
      h.scopesAhead_eq hcontains, List.append_assoc]
  · have hcontains : ¬ s.contains place = true := fun hc => hstop (Span.contains_iff.mp hc).2
    rw [scopesAhead_cons_of_le (Nat.le_of_not_lt hstop), scopesAhead_dropWhile hplace,
      Match.scopesAround_cons_of_not_contains hcontains]

end InOrder

/-- A group is painted from its start on: the groups that end before it are closed, and it lies in what
is still open there. -/
theorem paintGroups_cons {expand : String → List String} {limit : Nat} {name : String} {s : Span}
    (hs : s.start < s.stop) (hlimit : s.start ≤ limit) (rest : List (Option String × Option Span))
    (opened : List OpenGroup) (p : Paint) :
    paintGroups expand base limit ((some name, some s) :: rest) opened p =
      paintGroups expand base limit rest
        ((scopesAhead base opened s.start ++ expand name, s.stop) :: opened.dropWhile (·.2 ≤ s.start))
        ((closeUpTo s.start opened p).2.fill (scopesAhead base opened s.start) s.start) := by
  have hempty : ¬ s.isEmpty = true := by simpa [Span.isEmpty] using hs
  rw [paintGroups, if_neg hempty, if_neg (Nat.not_lt.mpr hlimit), ← closeUpTo_fst s.start opened p,
    ← innermost_closeUpTo base s.start opened p]
  rfl

/-- **Painting groups**, and then the rest of the match, gives each place ahead what the open groups
have for it, and the scopes of the groups that are still to come there. -/
theorem scopesAt?_paintGroups (expand : String → List String) (base : List String) {limit : Nat}
    {groups : List (Option String × Option Span)} (h : InOrder limit p opened (Match.taken groups))
    (place : Nat) :
    ((paintGroups expand base limit groups opened p).fill base limit).scopesAt? place =
      if p.stop ≤ place ∧ place < limit then
        some (scopesAhead base opened place ++
          Match.scopesAround expand (Match.taken groups) place)
      else p.scopesAt? place := by
  induction groups generalizing opened p with
  | nil =>
    have hclose := scopesAt?_closeUpTo base limit opened p place
    rw [← innermost_closeUpTo base limit opened p, closeUpTo_eq_closeAll h.opened_le] at hclose
    rw [paintGroups]
    simpa [Match.scopesAround, Match.taken, innermost] using hclose
  | cons group rest ih =>
    rcases group with ⟨_ | name, _ | s⟩
    · exact ih h
    · exact ih h
    · exact ih h
    by_cases hempty : s.isEmpty = true
    · have htaken : Match.taken ((some name, some s) :: rest) = Match.taken rest := by
        simp [Match.taken, hempty]
      rw [htaken] at h ⊢
      rw [paintGroups, if_pos hempty]
      exact ih h
    have htaken : Match.taken ((some name, some s) :: rest) = (name, s) :: Match.taken rest := by
      simp [Match.taken, hempty]
    rw [htaken] at h ⊢
    have hs : s.start < s.stop := h.start_lt _ List.mem_cons_self
    have hstop : s.stop ≤ limit := h.stop_le _ List.mem_cons_self
    have hpaint : p.stop ≤ s.start := h.le_start _ List.mem_cons_self
    rw [paintGroups_cons hs (by omega)]
    -- the place is painted before the group starts, or later, by what comes behind
    have hbefore := scopesAt?_closeUpTo base s.start opened p place
    have hclosed := stop_closeUpTo_le s.start opened p
    generalize (closeUpTo s.start opened p).2 = q at hbefore hclosed ⊢
    have hnext : (q.fill (scopesAhead base opened s.start) s.start).stop = s.start := by
      rw [stop_fill]
      omega
    have hrest := ih (h.next (Nat.le_of_eq hnext) (scopesAhead base opened s.start ++ expand name))
    rw [hnext] at hrest
    refine hrest.trans ?_
    by_cases hplace : s.start ≤ place ∧ place < limit
    · have hahead : p.stop ≤ place ∧ place < limit := by omega
      rw [if_pos hplace, if_pos hahead, h.scopesAhead_next hplace.1]
    · rw [if_neg hplace]
      refine hbefore.trans ?_
      by_cases hahead : p.stop ≤ place ∧ place < limit
      · have hlt : p.stop ≤ place ∧ place < s.start := by omega
        have hcome : ∀ group ∈ (name, s) :: Match.taken rest, place < group.2.start := by
          refine List.forall_mem_cons.mpr ⟨hlt.2, fun group hgroup => ?_⟩
          exact Nat.lt_of_lt_of_le hlt.2 (h.start_le group hgroup)
        rw [if_pos hlt, if_pos hahead, Match.scopesAround_eq_nil hcome, List.append_nil]
      · have hnot : ¬ (p.stop ≤ place ∧ place < s.start) := by omega
        rw [if_neg hnot, if_neg hahead]

end Paint

/-! ### Places and bytes -/

namespace Scanner

open Text

theorem byteOffset_le_byteLength (text : List Char) (place : Nat) :
    byteOffset text place ≤ byteLength text := by
  have hsplit : byteLength (text.take place ++ text.drop place) = byteLength text := by
    rw [List.take_append_drop]
  rw [byteLength_append] at hsplit
  unfold byteOffset
  omega

/-- A byte of a text belongs to the character at its column: it lies behind just those places that the
character lies behind. -/
theorem byteOffset_le_iff {text : List Char} {byte : Nat} (h : byte < byteLength text) (place : Nat) :
    byteOffset text place ≤ byte ↔ place ≤ columnOfByte text byte := by
  unfold byteOffset columnOfByte
  induction text generalizing byte place with
  | nil => exact absurd h (Nat.not_lt_zero _)
  | cons c rest ih =>
    rw [byteLength_cons] at h
    cases place with
    | zero => simp
    | succ place =>
      rw [List.take_succ_cons, byteLength_cons, wholeCharsBefore]
      by_cases hc : c.utf8Size ≤ byte
      · have hrest : byteLength (rest.take place) ≤ byte - c.utf8Size ↔
            place ≤ wholeCharsBefore rest (byte - c.utf8Size) := ih (by omega) place
        rw [if_pos hc]
        omega
      · rw [if_neg hc]
        omega

end Scanner

/-! ### Matches -/

namespace Paint

/-- The groups that are painted are those of the match, as far as there are names for them. -/
theorem captures_eq (p : Paint) (text : Array Char) (base : List String) (names : CaptureNames)
    (m : Match) :
    p.captures text base names m =
      paintGroups (ScopeName.expand (m.groupText text)) base m.stop
        (names.toList.zip m.captures) [] p := by
  have hnames : ((List.range (min names.size m.captures.length)).map names.name?).zip m.captures =
      names.toList.zip m.captures := by
    refine List.ext_getElem ?_ fun i _ _ => ?_
    · simp [CaptureNames.toList]
    · simp [CaptureNames.toList]
  rw [captures, hnames]

/-- **Captured groups** are painted around just the text that they took: if the groups of a match that
have a name and took some text lie in the match, each later one in an earlier one or behind it, then
every place of the match gets the scopes of the match, followed by the names of those groups that it
lies in, in the order of the groups. What was painted before stays. Each byte of the match belongs to
the character at one of these places, with which it is in the same groups and strokes. -/
theorem scopesAt?_captures (p : Paint) (text : Array Char) (before base : List String)
    (names : CaptureNames) (m : Match) (hp : p.stop ≤ m.start)
    (hinside : ∀ group ∈ m.namedGroups names, group.2.Within m.whole)
    (hnested : Match.Nested (m.namedGroups names)) :
    let q := ((p.fill before m.start).captures text base names m).fill base m.stop
    (∀ place, m.start ≤ place → place < m.stop → q.scopesAt? place =
      some (base ++ Match.scopesAround (ScopeName.expand (m.groupText text))
        (m.namedGroups names) place)) ∧
    (∀ place < m.start, q.scopesAt? place =
      if place < p.stop then p.scopesAt? place else some before) ∧
    ∀ byte, Scanner.byteOffset text.toList m.start ≤ byte →
      byte < Scanner.byteOffset text.toList m.stop →
      ∃ place, m.start ≤ place ∧ place < m.stop ∧
        ∀ other, Scanner.byteOffset text.toList other ≤ byte ↔ other ≤ place := by
  intro q
  have hstart : (p.fill before m.start).stop = m.start := by
    rw [stop_fill]
    omega
  have horder : InOrder m.stop (p.fill before m.start) [] (m.namedGroups names) := {
    opened_le := fun _ ho => absurd ho List.not_mem_nil
    start_lt := fun _ => Match.start_lt_of_mem_taken
    le_start := fun group hgroup => by
      rw [hstart]
      exact (hinside group hgroup).1
    stop_le := fun group hgroup => (hinside group hgroup).2
    fits := fun _ ho => absurd ho List.not_mem_nil
    nested := hnested }
  have hpaint := scopesAt?_paintGroups (ScopeName.expand (m.groupText text)) base horder
  rw [← captures_eq, hstart] at hpaint
  refine ⟨fun place hplace hlt => ?_, fun place hplace => ?_, fun byte hfrom hto => ?_⟩
  · exact (hpaint place).trans (if_pos ⟨hplace, hlt⟩)
  · have hnot : ¬ (m.start ≤ place ∧ place < m.stop) := by omega
    refine (hpaint place).trans ((if_neg hnot).trans ?_)
    rw [scopesAt?_fill]
    by_cases hold : place < p.stop
    · have hnew : ¬ (p.stop ≤ place ∧ place < m.start) := by omega
      rw [if_neg hnew, if_pos hold]
    · have hnew : p.stop ≤ place ∧ place < m.start := by omega
      rw [if_pos hnew, if_neg hold]
  · have hbyte : byte < Text.byteLength text.toList :=
      Nat.lt_of_lt_of_le hto (Scanner.byteOffset_le_byteLength _ _)
    have hiff := Scanner.byteOffset_le_iff hbyte
    refine ⟨Scanner.columnOfByte text.toList byte, (hiff m.start).mp hfrom, ?_, hiff⟩
    exact Nat.lt_of_not_le fun hle => absurd hto (Nat.not_lt.mpr ((hiff m.stop).mpr hle))

/-- A match of `été = ici` with a group that holds two others, of which one ends with it, an empty group,
one without a name, one that took no part, and a last one behind them. -/
def nestedMatch : Match where
  whole := ⟨0, 9⟩
  groups := [some ⟨0, 5⟩, some ⟨0, 1⟩, some ⟨2, 2⟩, none, some ⟨1, 5⟩, some ⟨3, 5⟩, some ⟨6, 9⟩]

/-- The names of its groups. -/
def nestedNames : CaptureNames where
  size := 8
  given := [(1, some "left"), (2, some "first"), (3, some "empty"), (4, some "absent"), (6, some "mark"),
    (7, some "right $7")]

theorem scopesAt?_captures_nested :
    let text := "été = ici;".toList.toArray
    let q := (((Paint.fill {} ["text"] 0).captures text ["text", "pair"] nestedNames nestedMatch).fill
      ["text", "pair"] 9)
    (∀ group ∈ nestedMatch.namedGroups nestedNames, group.2.Within nestedMatch.whole) ∧
    Match.Nested (nestedMatch.namedGroups nestedNames) ∧
    q.scopesAt? 0 = some ["text", "pair", "left", "first"] ∧
    q.scopesAt? 2 = some ["text", "pair", "left"] ∧
    q.scopesAt? 4 = some ["text", "pair", "left", "mark"] ∧
    q.scopesAt? 5 = some ["text", "pair"] ∧
    q.scopesAt? 8 = some ["text", "pair", "right", "ici"] := by
  intro text q
  have hgroups : nestedMatch.namedGroups nestedNames =
      [("left", ⟨0, 5⟩), ("first", ⟨0, 1⟩), ("mark", ⟨3, 5⟩), ("right $7", ⟨6, 9⟩)] := by
    decide +kernel
  have hinside : ∀ group ∈ nestedMatch.namedGroups nestedNames, group.2.Within nestedMatch.whole := by
    rw [hgroups]
    simp [Span.Within, nestedMatch]
  have hnested : Match.Nested (nestedMatch.namedGroups nestedNames) := by
    rw [hgroups]
    simp [Match.Nested, Span.Within]
  obtain ⟨hplaces, _, _⟩ := scopesAt?_captures {} text ["text"] ["text", "pair"] nestedNames nestedMatch
    (Nat.le_refl 0) hinside hnested
  refine ⟨hinside, hnested, ?_, ?_, ?_, ?_, ?_⟩
  · exact (hplaces 0 (by decide) (by decide)).trans (by decide +kernel)
  · exact (hplaces 2 (by decide) (by decide)).trans (by decide +kernel)
  · exact (hplaces 4 (by decide) (by decide)).trans (by decide +kernel)
  · exact (hplaces 5 (by decide) (by decide)).trans (by decide +kernel)
  · exact (hplaces 8 (by decide) (by decide)).trans (by decide +kernel)

end Paint

end Tincture
