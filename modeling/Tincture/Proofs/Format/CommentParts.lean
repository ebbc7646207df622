import Mathlib.Data.List.Flatten
import Mathlib.Data.List.Perm.Basic
import Tincture.Proofs.Format.Comments

/-!
# Comments among the parts of a text

A text without quotation marks that is put together from parts, with white space or commas between
them, has its comment in the first part that has one, and all parts behind it belong to the comment
(`solid_commentOf_joinWith`). So it is for the items of a list (`solid_commentOf_eq_importItems`) and
for the pieces that a line is wrapped into (`solid_commentOf_eq_wrapWords`). When each part is a line
by itself, the parts behind are comments no more, and all of the comment is kept just if they are empty
(`solid_flatMap_commentOf_perm_iff`).
-/

namespace Tincture.Format

open Text

/-! ### Parts of a text -/

/-- The parts of a text from the first one on that has a comment. -/
def fromComment (parts : List (List Char)) : List (List Char) :=
  parts.dropWhile (!hasComment ·)

/-- The comment of a text from its parts: it starts in the first part that has one, and all later parts
belong to it. -/
def commentAmong (parts : List (List Char)) : List Char :=
  match fromComment parts with
  | [] => []
  | part :: later => commentOf part ++ later.flatten

theorem commentAmong_cons (part : List Char) (parts : List (List Char)) :
    commentAmong (part :: parts) =
      if hasComment part then commentOf part ++ parts.flatten else commentAmong parts := by
  cases hpart : hasComment part <;> simp [commentAmong, fromComment, hpart]

/-- Parts without characters do not matter. -/
theorem commentAmong_filter (parts : List (List Char)) :
    commentAmong (parts.filter (!·.isEmpty)) = commentAmong parts := by
  induction parts with
  | nil => rfl
  | cons part parts ih =>
    cases part with
    | nil =>
      rw [List.filter_cons_of_neg (by simp), ih, commentAmong_cons]
      rfl
    | cons c part =>
      rw [List.filter_cons_of_pos (by simp), commentAmong_cons, commentAmong_cons, ih,
        List.flatten_filter_not_isEmpty]

theorem solid_flatten_map_trim (parts : List (List Char)) :
    solid (parts.map trim).flatten = solid parts.flatten := by
  induction parts with
  | nil => rfl
  | cons part parts ih =>
    rw [List.map_cons, List.flatten_cons, List.flatten_cons, solid_append, solid_append,
      ignoresSpacing_solid.trim_eq, ih]

theorem solid_commentAmong_map_trim (parts : List (List Char)) :
    solid (commentAmong (parts.map trim)) = solid (commentAmong parts) := by
  induction parts with
  | nil => rfl
  | cons part parts ih =>
    rw [List.map_cons, commentAmong_cons, commentAmong_cons, hasComment_trim]
    split
    · rw [solid_append, solid_append, ignoresSpacing_comment.trim_eq, solid_flatten_map_trim]
    · exact ih

theorem solid_joinWith {glue : List Char} (h : solid glue = []) (parts : List (List Char)) :
    solid (joinWith glue parts) = solid parts.flatten := by
  induction parts with
  | nil => rfl
  | cons part parts ih =>
    rcases parts with _ | ⟨next, parts⟩
    · simp [joinWith]
    · rw [joinWith_cons_cons, solid_append, solid_append, h, ih, List.append_nil, ← solid_append,
        ← List.flatten_cons]

section joinWith

variable {glue : List Char} (hglue : solid glue = []) (hne : glue ≠ [])

include hglue hne in
/-- What stands between parts leads back to code. -/
theorem after_append_glue {part : List Char} (hquote : '"' ∉ part) (h : hasComment part = false) :
    Scan.code.after (part ++ glue) = .code := by
  have hcode : Scan.code ≠ .string ∧ Scan.code ≠ .escape := by simp
  have houtside := Scan.after_outside hquote hcode
  rw [hasComment_eq_false_iff] at h
  rw [Scan.after_append]
  refine Scan.after_of_solid_eq_nil hglue ?_
  cases hafter : Scan.code.after part <;> simp_all

include hglue hne in
/-- **The comment of parts** that are put together with white space and commas between them. -/
theorem solid_commentOf_joinWith {parts : List (List Char)} (hquote : ∀ part ∈ parts, '"' ∉ part) :
    solid (commentOf (joinWith glue parts)) = solid (commentAmong parts) := by
  induction parts with
  | nil => rfl
  | cons part parts ih =>
    obtain ⟨hpart, hparts⟩ := List.forall_mem_cons.mp hquote
    rw [commentAmong_cons]
    rcases parts with _ | ⟨next, parts⟩
    · rw [joinWith, List.flatten_nil, List.append_nil]
      split_ifs with hcomment
      · rfl
      · rw [commentOf_eq_nil (by simpa using hcomment)]
        rfl
    rw [joinWith_cons_cons]
    split_ifs with hcomment
    · -- what is behind the part is all in its comment
      rw [List.append_assoc, commentOf, Scan.commented_append, hasComment_eq_true_iff.mp hcomment,
        Scan.commented_comment, solid_append, solid_append, solid_append, hglue, solid_joinWith hglue]
      rfl
    · have hcode := after_append_glue hglue hne hpart (by simpa using hcomment)
      rw [commentOf, Scan.commented_append, hcode, Scan.commented_eq_nil (by simp [hcode]),
        List.nil_append]
      exact ih hparts

end joinWith

/-- The pieces of a text, put together again. -/
theorem joinWith_splitOn (sep : Char) (s : List Char) : joinWith [sep] (splitOn sep s) = s := by
  induction s with
  | nil => rfl
  | cons c s ih =>
    obtain ⟨piece, more, hsplit⟩ := List.exists_cons_of_ne_nil (splitOn_ne_nil sep s)
    by_cases hc : c = sep
    · rw [hc, splitOn_cons_self, hsplit, joinWith_cons_cons, ← hsplit, ih]
      rfl
    · obtain ⟨piece, more, hsplit, hcons⟩ := exists_splitOn_cons_of_ne hc s
      rw [hcons]
      rw [hsplit] at ih
      rcases more with _ | ⟨next, more⟩
      · rw [joinWith] at ih ⊢
        rw [ih]
      · rw [joinWith_cons_cons, List.append_assoc] at ih ⊢
        rw [List.cons_append, ih]

/-- **The comment of a text** without quotation marks, by the pieces between white space or commas. -/
theorem solid_commentOf_splitOn {sep : Char} (hsep : isSolid sep = false) {s : List Char}
    (hquote : '"' ∉ s) : solid (commentOf s) = solid (commentAmong (splitOn sep s)) := by
  have hpieces : ∀ piece ∈ splitOn sep s, '"' ∉ piece := by
    intro piece hpiece hmem
    exact hquote (mem_of_mem_splitOn hpiece hmem)
  have hglue : solid [sep] = [] := solid_eq_nil_iff.mpr (by simpa using hsep)
  conv_lhs => rw [← joinWith_splitOn sep s]
  exact solid_commentOf_joinWith hglue (by simp) hpieces

theorem solid_commentOf_eq_importItems {s : List Char} (hquote : '"' ∉ s) :
    solid (commentOf s) = solid (commentAmong (importItems s)) := by
  have hcomma : isSolid ',' = false := by decide
  rw [importItems, commentAmong_filter, solid_commentAmong_map_trim,
    solid_commentOf_splitOn hcomma hquote]

theorem solid_commentOf_eq_blankWords {s : List Char} (hquote : '"' ∉ s) :
    solid (commentOf s) = solid (commentAmong (blankWords s)) := by
  have hblank : isSolid ' ' = false := by decide
  rw [blankWords, commentAmong_filter, solid_commentOf_splitOn hblank hquote]

/-! ### Wrapping -/

/-- **The comment of a line** starts in one of the pieces that it is wrapped into, and all later pieces
belong to it. -/
theorem solid_commentOf_eq_wrapWords (width : Nat) {content : List Char} (hquote : '"' ∉ content) :
    solid (commentOf content) = solid (commentAmong (wrapWords width content)) := by
  obtain ⟨groups, hwrap, hflatten, hgroups, -⟩ := exists_groups_wrapWords width content
  have hwords : ∀ word ∈ blankWords content, '"' ∉ word := by
    intro word hword hmem
    exact hquote (mem_of_mem_splitOn (List.mem_of_mem_filter hword) hmem)
  have hpieces : ∀ piece ∈ wrapWords width content, '"' ∉ piece := by
    intro piece hpiece hmem
    exact hquote (mem_of_mem_wrapWords hpiece hmem (by decide))
  have hblank : solid [' '] = [] := by decide
  calc solid (commentOf content) = solid (commentAmong (blankWords content)) :=
        solid_commentOf_eq_blankWords hquote
    _ = solid (commentOf (spaced (blankWords content))) :=
        (solid_commentOf_joinWith hblank (by simp) hwords).symm
    _ = solid (commentOf (spaced (wrapWords width content))) := by
        rw [hwrap, spaced_map_spaced fun g hg => (hgroups g hg).1, hflatten]
    _ = solid (commentAmong (wrapWords width content)) :=
        solid_commentOf_joinWith hblank (by simp) hpieces

/-! ### Parts on lines of their own -/

/-- Lists with parts of others in their places hold the same only if all of the parts are whole. -/
theorem flatMap_perm_iff_of_sublist {α β : Type} {l : List α} {f g : α → List β}
    (h : ∀ a ∈ l, (f a).Sublist (g a)) :
    (l.flatMap f).Perm (l.flatMap g) ↔ ∀ a ∈ l, f a = g a := by
  induction l with
  | nil => simp
  | cons a l ih =>
    obtain ⟨ha, hl⟩ := List.forall_mem_cons.mp h
    rw [List.flatMap_cons, List.flatMap_cons, List.forall_mem_cons]
    constructor
    · intro hperm
      have hlength := hperm.length_eq
      have hle : (l.flatMap f).length ≤ (l.flatMap g).length :=
        (List.Sublist.flatMap_right l hl).length_le
      rw [List.length_append, List.length_append] at hlength
      have hpart : (f a).length ≤ (g a).length := ha.length_le
      have heq : f a = g a := ha.eq_of_length (by omega)
      rw [heq, List.perm_append_left_iff] at hperm
      exact ⟨heq, (ih hl).mp hperm⟩
    · rintro ⟨heq, hrest⟩
      rw [heq, List.perm_append_left_iff]
      exact (ih hl).mpr hrest

theorem flatMap_commentOf_fromComment (parts : List (List Char)) :
    (fromComment parts).flatMap commentOf = parts.flatMap commentOf := by
  induction parts with
  | nil => rfl
  | cons part parts ih =>
    cases hpart : hasComment part with
    | true => simp [fromComment, hpart]
    | false =>
      rw [List.flatMap_cons, commentOf_eq_nil hpart, List.nil_append, ← ih]
      simp [fromComment, hpart]

/-- Parts on lines of their own have no more in their comments than the text has. -/
theorem solid_flatMap_commentOf_sublist (parts : List (List Char)) :
    (solid (parts.flatMap commentOf)).Sublist (solid (commentAmong parts)) := by
  rw [← flatMap_commentOf_fromComment, commentAmong]
  cases fromComment parts with
  | nil => exact List.Sublist.refl _
  | cons part later =>
    rw [List.flatMap_cons, solid_append, solid_append, solid_flatMap, solid_flatten]
    exact (List.Sublist.refl _).append
      (List.Sublist.flatMap_right later fun line _ => solid_commentOf_sublist line)

/-- They have as much just if nothing is on the lines behind the one where the comment starts. -/
theorem solid_flatMap_commentOf_perm_iff (parts : List (List Char)) :
    (solid (parts.flatMap commentOf)).Perm (solid (commentAmong parts)) ↔
      ∀ part ∈ (fromComment parts).tail, solid part = [] := by
  rw [← flatMap_commentOf_fromComment, commentAmong]
  cases fromComment parts with
  | nil => simp
  | cons part later =>
    rw [List.flatMap_cons, solid_append, solid_append, List.perm_append_left_iff, solid_flatMap,
      solid_flatten, flatMap_perm_iff_of_sublist fun line _ => solid_commentOf_sublist line,
      List.tail_cons]
    refine forall₂_congr fun line _ => ?_
    rw [← solid_codeOf_eq_nil_iff, ← solid_codeOf_append_commentOf line]
    exact List.self_eq_append_left

end Tincture.Format
