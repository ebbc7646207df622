import Mathlib.Data.List.Induction
import Mathlib.Data.List.Nodup
import Tincture.Config.Languages
import Tincture.Proofs.Text.WrittenLines

/-!
# Configured languages over built-in ones

Among all languages each name stands once: those of the built-in languages in their places, and
after them the other configured names, in the order in which they first occur. Under a name stands
what its last entry says, or the built-in language if no entry has the name (`Layered`,
`languageSpecs_layered`). The paths of an entry lead on from the base directory, unless they start at
the root (`segments_within`).

One language that is put into a list changes nothing under other names (`mem_layer_iff`), and adds its
name at the end if it is new (`ids_layer`). From this both follow along the entries.
-/

namespace Tincture

/-! ### Names without repetitions -/

section names

variable {α : Type} [DecidableEq α]

theorem eraseDups_concat (l : List α) (a : α) :
    (l ++ [a]).eraseDups = l.eraseDups ++ if a ∈ l then [] else [a] := by
  rw [List.eraseDups_append]
  by_cases ha : a ∈ l
  · simp [List.removeAll, ha]
  · have hremove : [a].removeAll l = [a] := by simp [List.removeAll, ha]
    rw [hremove, if_neg ha, List.eraseDups_cons, List.filter_nil, List.eraseDups_nil]

theorem nodup_eraseDups (l : List α) : l.eraseDups.Nodup := by
  induction l using List.reverseRecOn with
  | nil => simp
  | append_singleton l a ih =>
    rw [eraseDups_concat]
    split
    · rwa [List.append_nil]
    · rename_i ha
      rw [← List.concat_eq_append]
      exact ih.concat (mt List.mem_eraseDups.mp ha)

end names

/-! ### Languages in a list -/

namespace LanguageSpec

variable {specs entries : List LanguageSpec} {s : LanguageSpec}

/-- A new name goes to the end, and one that is there stays in its place. -/
theorem ids_layer (specs : List LanguageSpec) (spec : LanguageSpec) :
    (layer specs spec).map (·.id) =
      specs.map (·.id) ++ if spec.id ∈ specs.map (·.id) then [] else [spec.id] := by
  induction specs with
  | nil => rfl
  | cons s rest ih =>
    rw [layer]
    by_cases hs : s.id = spec.id
    · simp [hs]
    · simp [hs, Ne.symm hs, ih]

/-- A language takes the place of the one with its name. -/
theorem mem_layer_iff (h : (specs.map (·.id)).Nodup) (spec : LanguageSpec) :
    s ∈ layer specs spec ↔ s = spec ∨ s ∈ specs ∧ s.id ≠ spec.id := by
  induction specs with
  | nil => simp [layer]
  | cons first rest ih =>
    obtain ⟨hfirst, hrest⟩ := List.nodup_cons.mp h
    rw [layer]
    by_cases heq : first.id = spec.id
    · -- the name does not come again behind
      have hbehind : s ∈ rest → s.id ≠ spec.id := fun hs hid =>
        hfirst (List.mem_map.mpr ⟨s, hs, hid.trans heq.symm⟩)
      rw [if_pos heq, List.mem_cons, List.mem_cons]
      constructor
      · rintro (hs | hs)
        · exact .inl hs
        · exact .inr ⟨.inr hs, hbehind hs⟩
      · rintro (hs | ⟨rfl | hs, hne⟩)
        · exact .inl hs
        · exact absurd heq hne
        · exact .inr hs
    · rw [if_neg heq, List.mem_cons, List.mem_cons, ih hrest]
      constructor
      · rintro (rfl | hs | ⟨hs, hne⟩)
        · exact .inr ⟨.inl rfl, heq⟩
        · exact .inl hs
        · exact .inr ⟨.inr hs, hne⟩
      · rintro (hs | ⟨hs | hs, hne⟩)
        · exact .inr (.inl hs)
        · exact .inl hs
        · exact .inr (.inr ⟨hs, hne⟩)

/-- The names of languages that are put into a list one after the other. -/
theorem ids_foldl_layer (h : (specs.map (·.id)).eraseDups = specs.map (·.id))
    (entries : List LanguageSpec) :
    (entries.foldl layer specs).map (·.id) =
      (specs.map (·.id) ++ entries.map (·.id)).eraseDups := by
  induction entries using List.reverseRecOn with
  | nil => simpa using h.symm
  | append_singleton entries spec ih =>
    rw [List.foldl_concat, ids_layer, ih, List.map_append, List.map_singleton, ← List.append_assoc,
      eraseDups_concat]
    simp only [List.mem_eraseDups]

/-- **Of languages with the same name** the last one counts, and one that was there only if none is put
into the list. -/
theorem mem_foldl_layer_iff (h : (specs.map (·.id)).eraseDups = specs.map (·.id)) :
    s ∈ entries.foldl layer specs ↔
      (entries.filter (·.id = s.id)).getLast? = some s ∨
        s ∈ specs ∧ ∀ e ∈ entries, e.id ≠ s.id := by
  induction entries using List.reverseRecOn with
  | nil => simp
  | append_singleton entries spec ih =>
    have hnodup : ((entries.foldl layer specs).map (·.id)).Nodup := by
      rw [ids_foldl_layer h]
      exact nodup_eraseDups _
    rw [List.foldl_concat, mem_layer_iff hnodup, ih]
    by_cases hid : spec.id = s.id
    · have hlast : ((entries ++ [spec]).filter (·.id = s.id)).getLast? = some spec := by
        simp [List.filter_append, hid]
      rw [hlast, Option.some_inj]
      constructor
      · rintro (rfl | ⟨-, hne⟩)
        · exact .inl rfl
        · exact absurd hid.symm hne
      · rintro (rfl | ⟨-, hnone⟩)
        · exact .inl rfl
        · exact absurd hid (hnone spec (by simp))
    · have hfilter : (entries ++ [spec]).filter (·.id = s.id) = entries.filter (·.id = s.id) := by
        simp [List.filter_append, hid]
      have hne : s ≠ spec := fun heq => hid (congrArg LanguageSpec.id heq).symm
      have hnone : (∀ e ∈ entries ++ [spec], e.id ≠ s.id) ↔ ∀ e ∈ entries, e.id ≠ s.id := by
        simp [or_imp, forall_and, hid]
      rw [hfilter, hnone]
      constructor
      · rintro (heq | ⟨hmem, -⟩)
        · exact absurd heq hne
        · exact hmem
      · exact fun hmem => .inr ⟨hmem, Ne.symm hid⟩

end LanguageSpec

/-! ### Paths -/

namespace Path

open Text

theorem segments_append_slash {path before after : String}
    (h : path.toList = before.toList ++ '/' :: after.toList) :
    segments path = segments before ++ segments after := by
  rw [segments, h, splitOn_append_sep, List.filter_append, segments, segments]

/-- A path that does not start at the root leads on from the directory. -/
theorem segments_join {path : String} (h : isAbsolute path = false) (dir : String) :
    segments (join dir path) = segments dir ++ segments path := by
  rw [join]
  by_cases hempty : dir.isEmpty = true
  · obtain rfl : dir = "" := by simpa using hempty
    rw [if_pos (by simp)]
    rfl
  rw [if_neg (by simp [h, hempty])]
  split
  · -- the slash between the two is the last character of the directory
    rename_i hslash
    obtain ⟨chars, hchars⟩ := List.getLast?_eq_some_iff.mp (by simpa using hslash)
    have hdir : segments dir = segments (String.ofList chars) ++ segments "" :=
      segments_append_slash (by simpa using hchars)
    have hjoined : segments (dir ++ path) = segments (String.ofList chars) ++ segments path :=
      segments_append_slash (by simp [hchars])
    have hnothing : segments "" = [] := rfl
    rw [hjoined, hdir, hnothing, List.append_nil]
  · exact segments_append_slash (by simp)

/-- **Where a path leads**: on from the base directory, unless it starts at the root. -/
theorem segments_within (base : Option String) (path : String) :
    segments (within base path) =
      if isAbsolute path then segments path else segments (base.getD "") ++ segments path := by
  cases base with
  | none =>
    split
    · rfl
    · rfl
  | some dir =>
    rw [within]
    split
    · rename_i habs
      rw [join, if_pos (by simp [habs])]
    · rename_i habs
      exact segments_join (by simpa using habs) dir

/-- What leads on from a directory starts at the root just if the directory does. -/
theorem isAbsolute_within (base : Option String) (path : String) :
    isAbsolute (within base path) = (isAbsolute path || isAbsolute (base.getD "")) := by
  cases base with
  | none => simp [within, isAbsolute]
  | some dir =>
    rw [within, join, Option.getD_some]
    by_cases habs : isAbsolute path = true
    · simp [habs]
    by_cases hempty : dir.isEmpty = true
    · obtain rfl : dir = "" := by simpa using hempty
      simp [isAbsolute]
    -- the first character is that of the directory
    obtain ⟨c, chars, hdir⟩ := List.exists_cons_of_ne_nil
      (show dir.toList ≠ [] by simpa using hempty)
    have hfirst : ∀ rest : String, isAbsolute (dir ++ rest) = isAbsolute dir := by
      intro rest
      simp [isAbsolute, hdir]
    rw [if_neg (by simp [habs, hempty]), Bool.eq_false_iff.mpr habs, Bool.false_or]
    split
    · exact hfirst path
    · rw [String.append_assoc]
      exact hfirst _

end Path

/-! ### All languages -/

/-- The configuration in a file; one that cannot be read is empty. -/
def LanguageConfiguration.ofFile (files : FileTree) (path : String) : LanguageConfiguration :=
  match files.read path with
  | .ok text => (ofJson? text).getD {}
  | .error _ => {}

/-- A language is what an entry says, with its paths seen from the base directory. -/
structure LanguageEntry.Describes (files : FileTree) (base : Option String) (e : LanguageEntry)
    (s : LanguageSpec) : Prop where
  id : s.id = e.id
  scopeName : s.scopeName = e.scopeName
  extensions : s.extensions = e.extensions
  grammar : s.grammar = .path (Path.within base e.grammar)
  configuration : s.configuration =
    e.configuration.elim {} fun path => .ofFile files (Path.within base path)

theorem LanguageEntry.describes_iff {files : FileTree} {base : Option String} {e : LanguageEntry}
    {s : LanguageSpec} : e.Describes files base s ↔ e.toSpec files base = s := by
  have hconfiguration : (e.toSpec files base).configuration =
      e.configuration.elim {} fun path => .ofFile files (Path.within base path) := by
    cases hpath : e.configuration <;> simp only [toSpec, hpath] <;> rfl
  constructor
  · rintro ⟨hid, hscope, hextensions, hgrammar, hconf⟩
    cases s
    rw [LanguageSpec.mk.injEq, hconfiguration]
    exact ⟨hid.symm, hscope.symm, hextensions.symm, hgrammar.symm, hconf.symm⟩
  · rintro rfl
    exact ⟨rfl, rfl, rfl, rfl, hconfiguration⟩

namespace Config

/-- The language under a name: what the last entry with the name says, or the built-in language if
there is no such entry. -/
inductive Layered (c : Config) (files : FileTree) (base : Option String) : LanguageSpec → Prop
  | configured {e : LanguageEntry} {s : LanguageSpec}
      (hlast : (c.languages.filter (·.id = s.id)).getLast? = some e)
      (h : e.Describes files base s) : Layered c files base s
  | builtin {s : LanguageSpec} (h : s ∈ builtinLanguages)
      (hnone : ∀ e ∈ c.languages, e.id ≠ s.id) : Layered c files base s

theorem mem_languageSpecs_iff {c : Config} {files : FileTree} {base : Option String}
    {s : LanguageSpec} : s ∈ c.languageSpecs files base ↔ Layered c files base s := by
  have hentries : ((c.languages.map (·.toSpec files base)).filter (·.id = s.id)).getLast? =
      ((c.languages.filter (·.id = s.id)).getLast?).map (·.toSpec files base) := by
    rw [List.filter_map, List.getLast?_map]
    rfl
  have hnone : (∀ spec ∈ c.languages.map (·.toSpec files base), spec.id ≠ s.id) ↔
      ∀ e ∈ c.languages, e.id ≠ s.id := List.forall_mem_map
  rw [languageSpecs, LanguageSpec.mem_foldl_layer_iff rfl, hentries, hnone, Option.map_eq_some_iff]
  constructor
  · rintro (⟨e, hlast, hspec⟩ | ⟨hmem, hnot⟩)
    · exact .configured hlast (LanguageEntry.describes_iff.mpr hspec)
    · exact .builtin hmem hnot
  · rintro (⟨hlast, hspec⟩ | ⟨hmem, hnot⟩)
    · exact .inl ⟨_, hlast, LanguageEntry.describes_iff.mp hspec⟩
    · exact .inr ⟨hmem, hnot⟩

/-- **All languages**: each name once, the built-in ones first and then the other configured ones in
the order in which they first occur; under each name what its last entry says, or the built-in
language; and the paths of entries seen from the base directory. -/
theorem languageSpecs_layered (c : Config) (files : FileTree) (base : Option String) :
    ((c.languageSpecs files base).map (·.id)).Nodup ∧
      (c.languageSpecs files base).map (·.id) = builtinLanguages.map (·.id) ++
        ((c.languages.map (·.id)).filter (· ∉ builtinLanguages.map (·.id))).eraseDups ∧
      (∀ s, s ∈ c.languageSpecs files base ↔ Layered c files base s) ∧
      ∀ path, Path.isAbsolute (Path.within base path) =
          (Path.isAbsolute path || Path.isAbsolute (base.getD "")) ∧
        Path.segments (Path.within base path) =
          if Path.isAbsolute path then Path.segments path
          else Path.segments (base.getD "") ++ Path.segments path := by
  have hids : (c.languageSpecs files base).map (·.id) =
      (builtinLanguages.map (·.id) ++ c.languages.map (·.id)).eraseDups := by
    rw [languageSpecs, LanguageSpec.ids_foldl_layer rfl, List.map_map]
    rfl
  refine ⟨?_, ?_, fun _ => mem_languageSpecs_iff,
    fun path => ⟨Path.isAbsolute_within base path, Path.segments_within base path⟩⟩
  · rw [hids]
    exact nodup_eraseDups _
  · have hremove : (c.languages.map (·.id)).removeAll (builtinLanguages.map (·.id)) =
        (c.languages.map (·.id)).filter (· ∉ builtinLanguages.map (·.id)) := by
      unfold List.removeAll
      exact List.filter_congr fun id _ => by simp only [List.elem_eq_mem, decide_not]
    rw [hids, List.eraseDups_append, hremove]
    rfl

end Config

end Tincture
