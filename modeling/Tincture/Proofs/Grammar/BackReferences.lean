import Tincture.Proofs.Text.EscapeClosed
import Tincture.Tokens.Line

/-!
# Completed patterns

A pattern refers to a group where a digit other than `0` stands behind a backslash that is not
escaped itself (`RefersTo`). Two readers go through a pattern in search of such places: the one that
tells whether there are any, and the one that puts texts in. Both can be cut at any place that
nothing before it escapes (`occursIn_append`, `substitute_append`), so that they agree on the
places.

A text that is put in is escaped. It then holds no reference, whatever it is, and escapes nothing of
what follows it, so that no reference comes about where it was put in either: a completed pattern
refers to nothing (`occursIn_substitute`).
-/

namespace Tincture

open Text

namespace BackReference

variable {a s : List Char}

/-- The pattern refers to group `n`. -/
def RefersTo (n : Nat) (s : List Char) : Prop :=
  ∃ a d b, s = a ++ '\\' :: d :: b ∧ EscapeClosed a ∧ group? d = some n

/-! ### Where the readers can be cut -/

theorem occursIn_cons {c : Char} (hc : c ≠ '\\') (s : List Char) :
    occursIn (c :: s) = occursIn s := by
  rw [occursIn]
  rintro d rest rfl
  exact absurd rfl hc

theorem substitute_cons (group : Nat → List Char) {c : Char} (hc : c ≠ '\\') (s : List Char) :
    substitute group (c :: s) = c :: substitute group s := by
  rw [substitute]
  rintro d rest rfl
  exact absurd rfl hc

theorem occursIn_append (ha : EscapeClosed a) (b : List Char) :
    occursIn (a ++ b) = (occursIn a || occursIn b) := by
  fun_induction occursIn a with
  | case1 => simp
  | case2 c rest ih =>
    rw [escapeClosed_pair] at ha
    rw [List.cons_append, List.cons_append, occursIn, ih ha, Bool.or_assoc]
  | case3 c rest hpair ih =>
    have hc := ha.ne_backslash hpair
    rw [escapeClosed_cons hc] at ha
    rw [List.cons_append, occursIn_cons hc, ih ha]

theorem substitute_append (group : Nat → List Char) (ha : EscapeClosed a) (b : List Char) :
    substitute group (a ++ b) = substitute group a ++ substitute group b := by
  fun_induction substitute group a with
  | case1 => simp
  | case2 c rest n hn ih =>
    rw [escapeClosed_pair] at ha
    simp only [List.cons_append, substitute, hn, ih ha, List.append_assoc]
  | case3 c rest hn ih =>
    rw [escapeClosed_pair] at ha
    simp only [List.cons_append, substitute, hn, ih ha]
  | case4 c rest hpair ih =>
    have hc := ha.ne_backslash hpair
    rw [escapeClosed_cons hc] at ha
    rw [List.cons_append, substitute_cons group hc, ih ha, List.cons_append]

/-- A reference is replaced by the escaped text of its group, and nothing else is there. -/
theorem substitute_reference (group : Nat → List Char) (ha : EscapeClosed a) {d : Char} {n : Nat}
    (hd : group? d = some n) (b : List Char) :
    substitute group (a ++ '\\' :: d :: b) =
      substitute group a ++ escape (group n) ++ substitute group b := by
  rw [substitute_append group ha, substitute, hd, List.append_assoc]

/-- **The first reader** finds the references that there are. -/
theorem occursIn_iff (s : List Char) : occursIn s = true ↔ ∃ n, RefersTo n s := by
  constructor
  · intro h
    fun_induction occursIn s with
    | case1 => simp at h
    | case2 c rest ih =>
      rcases Bool.or_eq_true_iff.mp h with hc | hrest
      · obtain ⟨n, hn⟩ := Option.isSome_iff_exists.mp hc
        exact ⟨n, [], c, rest, rfl, escapeClosed_nil, hn⟩
      · obtain ⟨n, a, d, b, rfl, ha, hd⟩ := ih hrest
        exact ⟨n, '\\' :: c :: a, d, b, rfl, (escapeClosed_pair c a).mpr ha, hd⟩
    | case3 c rest hpair ih =>
      obtain ⟨n, a, d, b, rfl, ha, hd⟩ := ih h
      have hc : c ≠ '\\' := by
        rintro rfl
        cases a with
        | nil => exact hpair _ _ rfl rfl
        | cons x a => exact hpair _ _ rfl rfl
      exact ⟨n, c :: a, d, b, rfl, (escapeClosed_cons hc a).mpr ha, hd⟩
  · rintro ⟨n, a, d, b, rfl, ha, hd⟩
    rw [occursIn_append ha, occursIn, hd]
    simp

/-! ### Texts that are put in -/

/-- A backslash before a character that means something makes no reference. -/
theorem group?_of_isMeta {c : Char} (hc : isMeta c = true) : group? c = none := by
  have hnone : ("\\.+*?()|[]\x7b\x7d^$#".toList.all fun d => (group? d).isNone) = true := by decide
  rw [isMeta, List.contains_eq_mem, decide_eq_true_iff] at hc
  exact Option.isNone_iff_eq_none.mp (List.all_eq_true.mp hnone c hc)

theorem isMeta_backslash : isMeta '\\' = true := by decide

theorem escape_cons_of_isMeta {c : Char} (hc : isMeta c = true) (s : List Char) :
    escape (c :: s) = '\\' :: c :: escape s := by
  simp [escape, hc]

theorem escape_cons_of_not_isMeta {c : Char} (hc : isMeta c = false) (s : List Char) :
    escape (c :: s) = c :: escape s := by
  simp [escape, hc]

/-- A character that is not escaped is no backslash. -/
theorem ne_backslash {c : Char} (hc : isMeta c = false) : c ≠ '\\' := by
  rintro rfl
  rw [isMeta_backslash] at hc
  cases hc

/-- An escaped text escapes nothing of what follows it. -/
theorem escapeClosed_escape (s : List Char) : EscapeClosed (escape s) := by
  induction s with
  | nil => exact escapeClosed_nil
  | cons c s ih =>
    cases hc : isMeta c with
    | true => rwa [escape_cons_of_isMeta hc, escapeClosed_pair]
    | false => rwa [escape_cons_of_not_isMeta hc, escapeClosed_cons (ne_backslash hc)]

/-- An escaped text refers to nothing. -/
theorem occursIn_escape (s : List Char) : occursIn (escape s) = false := by
  induction s with
  | nil => rfl
  | cons c s ih =>
    cases hc : isMeta c with
    | true =>
      rw [escape_cons_of_isMeta hc, occursIn, group?_of_isMeta hc, ih, Option.isSome_none,
        Bool.or_self]
    | false => rw [escape_cons_of_not_isMeta hc, occursIn_cons (ne_backslash hc), ih]

/-! ### Completed patterns -/

/-- **A completed pattern** refers to nothing, whatever the groups captured. -/
theorem occursIn_substitute (group : Nat → List Char) (s : List Char) :
    occursIn (substitute group s) = false := by
  fun_induction substitute group s with
  | case1 => rfl
  | case2 c rest n hn ih =>
    rw [occursIn_append (escapeClosed_escape _), occursIn_escape, ih, Bool.or_self]
  | case3 c rest hn ih => rw [occursIn, hn, ih, Option.isSome_none, Bool.or_self]
  | case4 c rest hpair ih =>
    by_cases hc : c = '\\'
    · -- a backslash at the end of the pattern stays there
      subst hc
      cases rest with
      | nil => rfl
      | cons d rest => exact absurd rfl (hpair d rest rfl)
    · rw [occursIn_cons hc, ih]

/-- A pattern is complete as it is if it refers to nothing, and only then. -/
theorem substitute_eq_self_iff (group : Nat → List Char) (s : List Char) :
    substitute group s = s ↔ occursIn s = false := by
  constructor
  · intro h
    rw [← h, occursIn_substitute]
  · exact substitute_of_not_occursIn group s

end BackReference

/-! ### Rules -/

open BackReference

/-- What a rule makes of a pattern when the grammar is compiled serves all regions alike: completing
the pattern for a region gives the same. -/
theorem Compile.resolve_followRule (options : EngineOptions) (source : String)
    (group : Nat → List Char) : (Compile.followRule options source).resolve options group =
      (FollowRule.backReferenced source).resolve options group := by
  rw [Compile.followRule]
  split
  · rfl
  · rename_i h
    have hsource : substitute group source.toList = source.toList :=
      substitute_of_not_occursIn group _ (by simpa using h)
    simp only [FollowRule.resolve, hsource, String.ofList_toList]

/-- **Patterns are completed once.** A pattern is left as it is if it refers to no group, and only
then; what was compiled for such a pattern with the grammar is what completing it would give. In any
other pattern the escaped text of the group stands in the place of each reference. What completing
gives, whatever the groups captured, holds no reference, so that completing it again with other
groups changes nothing. -/
theorem FollowRule.completed_once (options : EngineOptions) (source : String)
    (group : Nat → List Char) :
    let completed := (FollowRule.backReferenced source).resolve options group
    (completed.source = source ↔ occursIn source.toList = false) ∧
      (Compile.followRule options source).resolve options group = completed ∧
      (∀ a d b n, source.toList = a ++ '\\' :: d :: b → EscapeClosed a → group? d = some n →
        completed.source.toList = substitute group a ++ escape (group n) ++ substitute group b) ∧
      occursIn completed.source.toList = false ∧
      (∀ n, ¬ RefersTo n completed.source.toList) ∧
      ∀ other : Nat → List Char,
        (FollowRule.backReferenced completed.source).resolve options other = completed := by
  intro completed
  have hcompleted : completed.source.toList = substitute group source.toList :=
    String.toList_ofList
  have hnone : occursIn completed.source.toList = false := by
    rw [hcompleted, occursIn_substitute]
  refine ⟨?_, Compile.resolve_followRule options source group, fun a d b n hsource ha hd => ?_,
    hnone, fun n hn => ?_, fun other => ?_⟩
  · rw [← substitute_eq_self_iff group, ← hcompleted, String.toList_inj]
  · rw [hcompleted, hsource, substitute_reference group ha hd]
  · have hsome := (occursIn_iff _).mpr ⟨n, hn⟩
    rw [hnone] at hsome
    cases hsome
  · have hsource : substitute other completed.source.toList = completed.source.toList :=
      substitute_of_not_occursIn other _ hnone
    simp only [FollowRule.resolve, hsource, String.ofList_toList]
    rfl

end Tincture
