import KeyedStore.Entity.Declaration
import Mathlib.Data.List.Infix

/-!
# Short names of types

The short name of a type is what is left of its path behind the last double colon that stands before
the first bracket. Nothing in or behind a bracket is looked at, so arguments keep their paths.

- `Cut`: what a path is cut to;
- `Cut.unique`: there is one way to cut a path;
- `cut_lastSegment`: every path is cut so, and only there;
- `shortTypeName_drops_path`: a path that is made of segments is cut to the last of them.

## References

- SPEC_FULL.md, section 10.1, Utilities: `short_type_name`
-/

namespace KeyedStore

/-- The part of a path before the first bracket. -/
def outerPath (path : List Char) : List Char :=
  path.takeWhile (· ≠ '<')

/-- No two colons stand side by side. -/
def Undivided (chars : List Char) : Prop :=
  ¬ [':', ':'] <:+: chars

/-- What a path is cut to. -/
inductive Cut (path : List Char) : List Char → Prop where
  /-- A path without a double colon before the first bracket is left whole. -/
  | whole (hundivided : Undivided (outerPath path)) : Cut path path
  /-- Any other path is cut behind a double colon before the first bracket. It is the last one
  there, also if its second colon is followed by a third. -/
  | behind {front name : List Char} (hpath : path = front ++ ':' :: ':' :: name)
    (hfront : '<' ∉ front) (hlast : Undivided (':' :: outerPath name)) : Cut path name

/-! ## Paths character by character -/

variable {c : Char} {chars front name path suffix : List Char}

/-- A character before the first bracket is a part of the outer path. -/
theorem outerPath_cons (h : c ≠ '<') : outerPath (c :: chars) = c :: outerPath chars := by
  simp [outerPath, h]

/-- The outer path goes on through text without brackets. -/
theorem outerPath_append (h : '<' ∉ front) :
    outerPath (front ++ chars) = front ++ outerPath chars := by
  apply List.takeWhile_append_of_pos
  intro c hc
  simpa using ne_of_mem_of_not_mem hc h

/-- The outer path begins with a colon exactly if the path does. -/
theorem head?_outerPath : (outerPath chars).head? = some ':' ↔ chars.head? = some ':' := by
  cases chars with
  | nil => rfl
  | cons c chars =>
    by_cases h : c = '<'
    · subst h
      simp [outerPath]
    · rw [outerPath_cons h]
      rfl

theorem undivided_nil : Undivided [] := by
  simp [Undivided]

theorem undivided_cons :
    Undivided (c :: chars) ↔ ¬ (c = ':' ∧ chars.head? = some ':') ∧ Undivided chars := by
  have hprefix : [':', ':'] <+: c :: chars ↔ c = ':' ∧ chars.head? = some ':' := by
    cases chars with
    | nil => simp
    | cons d chars => simp [List.cons_prefix_cons, eq_comm]
  rw [Undivided, Undivided, List.infix_cons_iff, not_or, hprefix]

theorem undivided_of_not_mem (h : ':' ∉ chars) : Undivided chars :=
  fun hcolons => h (hcolons.subset (by simp))

theorem not_undivided_append : ¬ Undivided (front ++ ':' :: ':' :: chars) :=
  not_not_intro ⟨front, chars, by simp⟩

/-! ## One way to cut -/

/-- A path that can be cut is not whole. -/
theorem not_undivided_of_cut (hfront : '<' ∉ front) :
    ¬ Undivided (outerPath (front ++ ':' :: ':' :: name)) := by
  rw [outerPath_append hfront, outerPath_cons (by decide), outerPath_cons (by decide)]
  exact not_undivided_append

/-- Where a path is cut there is no double colon later, so it is not cut earlier. -/
theorem eq_of_later {between other : List Char}
    (heq : ':' :: ':' :: name = between ++ ':' :: ':' :: other) (hbetween : '<' ∉ between)
    (hlast : Undivided (':' :: outerPath name)) : name = other := by
  cases between with
  | nil => simpa using heq
  | cons c between =>
    -- The later double colon begins at the second colon of the earlier one, or behind it.
    have hname : ':' :: name = between ++ ':' :: ':' :: other := (List.cons.inj heq).2
    have houter : ':' :: outerPath name = outerPath (between ++ ':' :: ':' :: other) := by
      rw [← hname, outerPath_cons (by decide)]
    rw [houter] at hlast
    exact absurd hlast (not_undivided_of_cut fun hmem => hbetween (List.mem_cons_of_mem c hmem))

/-- There is one way to cut a path. -/
theorem Cut.unique {other : List Char} (hcut : Cut path name) (hother : Cut path other) :
    name = other := by
  cases hcut with
  | whole hundivided =>
    cases hother with
    | whole _ => rfl
    | behind hpath hfront _ => exact absurd hundivided (hpath ▸ not_undivided_of_cut hfront)
  | behind hpath hfront hlast =>
    cases hother with
    | whole hundivided => exact absurd hundivided (hpath ▸ not_undivided_of_cut hfront)
    | behind hpath' hfront' hlast' =>
      -- Of two double colons one comes first, and behind the last one there is none.
      rcases List.append_eq_append_iff.mp (hpath.symm.trans hpath') with
        ⟨between, hmore, heq⟩ | ⟨between, hmore, heq⟩
      · exact eq_of_later heq (fun hmem => hfront' (by simp [hmore, hmem])) hlast
      · exact (eq_of_later heq (fun hmem => hfront (by simp [hmore, hmem])) hlast').symm

/-! ## The last segment -/

/-- What is kept of a path in the end: what has been kept before, or what follows the last double
colon that is still to come before the first bracket. -/
theorem lastSegment_cases (kept chars : List Char) :
    Undivided (outerPath chars) ∧ lastSegment kept chars = kept ∨
      ∃ front, chars = front ++ ':' :: ':' :: lastSegment kept chars ∧ '<' ∉ front ∧
        Undivided (':' :: outerPath (lastSegment kept chars)) := by
  induction chars generalizing kept with
  | nil => exact .inl ⟨undivided_nil, rfl⟩
  | cons c rest ih =>
    by_cases hbracket : c = '<'
    · subst hbracket
      exact .inl ⟨undivided_nil, rfl⟩
    by_cases hcolons : c = ':' ∧ rest.head? = some ':'
    · -- What follows the double colon is kept, until another one comes.
      obtain ⟨rfl, hhead⟩ := hcolons
      obtain ⟨more, rfl⟩ := List.head?_eq_some_iff.mp hhead
      have hstep : lastSegment kept (':' :: ':' :: more) = lastSegment more (':' :: more) := by
        rw [lastSegment, if_neg (by decide), if_pos (by simp), List.drop_one, List.tail_cons]
      rw [hstep]
      rcases ih more with ⟨hundivided, hkept⟩ | ⟨front, hrest, hfront, hlast⟩
      · refine .inr ⟨[], by rw [hkept, List.nil_append], List.not_mem_nil, ?_⟩
        rw [hkept, ← outerPath_cons (by decide)]
        exact hundivided
      · exact .inr ⟨':' :: front, congrArg (':' :: ·) hrest, by simpa using hfront, hlast⟩
    · have hstep : lastSegment kept (c :: rest) = lastSegment kept rest := by
        rw [lastSegment, if_neg hbracket, if_neg hcolons]
      rw [hstep, outerPath_cons hbracket]
      rcases ih kept with ⟨hundivided, hkept⟩ | ⟨front, hrest, hfront, hlast⟩
      · -- The part before the bracket goes on with a colon only if the path does.
        refine .inl ⟨undivided_cons.mpr ⟨fun h => hcolons ?_, hundivided⟩, hkept⟩
        exact ⟨h.1, head?_outerPath.mp h.2⟩
      · refine .inr ⟨c :: front, congrArg (c :: ·) hrest, ?_, hlast⟩
        simpa [Ne.symm hbracket] using hfront

/-- The last segment is what the path is cut to. -/
theorem cut_lastSegment (path : List Char) : Cut path (lastSegment path path) := by
  rcases lastSegment_cases path path with ⟨hundivided, hkept⟩ | ⟨front, hpath, hfront, hlast⟩
  · rw [hkept]
    exact .whole hundivided
  · exact .behind hpath hfront hlast

/-! ## Paths of segments -/

/-- Before the last of some segments there is nothing, or a path that ends in a double colon. -/
theorem exists_intercalate_eq {segments : List (List Char)} (hne : segments ≠ [])
    (hbracket : ∀ segment ∈ segments, '<' ∉ segment) :
    ∃ before, [':', ':'].intercalate segments = before ++ segments.getLast hne ∧
      (before = [] ∨ ∃ front, before = front ++ [':', ':'] ∧ '<' ∉ front) := by
  induction segments with
  | nil => exact absurd rfl hne
  | cons first others ih =>
    cases others with
    | nil => exact ⟨[], by simp [List.intercalate], .inl rfl⟩
    | cons second others =>
      have hfirst : '<' ∉ first := hbracket first (by simp)
      obtain ⟨before, heq, hbefore⟩ := ih (by simp)
        fun segment hmem => hbracket segment (List.mem_cons_of_mem first hmem)
      -- The first segment and its double colon come before all the rest.
      refine ⟨first ++ [':', ':'] ++ before, ?_, .inr ?_⟩
      · rw [List.intercalate_cons_cons, heq, List.getLast_cons_cons, List.append_assoc,
          List.append_assoc, List.append_assoc]
      · rcases hbefore with rfl | ⟨front, rfl, hfront⟩
        · exact ⟨first, by simp, hfirst⟩
        · exact ⟨first ++ [':', ':'] ++ front, by simp, by simp [hfirst, hfront]⟩

/-- There is no outer path behind the first bracket. -/
theorem outerPath_suffix (h : suffix = [] ∨ suffix.head? = some '<') : outerPath suffix = [] := by
  rcases h with rfl | h
  · rfl
  · obtain ⟨rest, rfl⟩ := List.head?_eq_some_iff.mp h
    rfl

/-- A path of segments with arguments behind it is cut to the last segment and the arguments. -/
theorem cut_intercalate {segments : List (List Char)} (hne : segments ≠ [])
    (hplain : ∀ segment ∈ segments, ':' ∉ segment ∧ '<' ∉ segment)
    (hsuffix : suffix = [] ∨ suffix.head? = some '<') :
    Cut ([':', ':'].intercalate segments ++ suffix) (segments.getLast hne ++ suffix) := by
  obtain ⟨hcolon, hbracket⟩ := hplain _ (List.getLast_mem hne)
  have houter : outerPath (segments.getLast hne ++ suffix) = segments.getLast hne := by
    rw [outerPath_append hbracket, outerPath_suffix hsuffix, List.append_nil]
  have hundivided := undivided_of_not_mem hcolon
  obtain ⟨before, heq, rfl | ⟨front, rfl, hfront⟩⟩ :=
    exists_intercalate_eq hne fun segment hmem => (hplain segment hmem).2
  · rw [heq, List.nil_append]
    exact .whole (houter.symm ▸ hundivided)
  · have hpath : [':', ':'].intercalate segments ++ suffix =
        front ++ ':' :: ':' :: (segments.getLast hne ++ suffix) := by simp [heq]
    refine .behind hpath hfront ?_
    rw [houter, undivided_cons]
    exact ⟨fun h => hcolon (List.mem_of_mem_head? h.2), hundivided⟩

/-! ## Short names -/

/-- The short name of a path of segments, with arguments or without, is the last segment with the
arguments as they are; and every path is cut behind the last double colon before its first bracket,
or left whole if there is none. -/
theorem shortTypeName_drops_path :
    (∀ (segments : List String) (hne : segments ≠ []) (suffix : String),
      (∀ segment ∈ segments, ':' ∉ segment.toList ∧ '<' ∉ segment.toList) →
      suffix = "" ∨ suffix.toList.head? = some '<' →
      shortTypeName ("::".intercalate segments ++ suffix) = segments.getLast hne ++ suffix) ∧
    ∀ path : String, Cut path.toList (shortTypeName path).toList := by
  have hcut (path : String) : Cut path.toList (shortTypeName path).toList := by
    rw [shortTypeName, String.toList_ofList]
    exact cut_lastSegment path.toList
  refine ⟨fun segments hne suffix hplain hsuffix => ?_, hcut⟩
  have hsegments : Cut ("::".intercalate segments ++ suffix).toList
      (segments.getLast hne ++ suffix).toList := by
    have hmap : segments.map String.toList ≠ [] := by simpa using hne
    rw [String.toList_append, String.toList_append, String.toList_intercalate,
      ← List.getLast_map hmap]
    refine cut_intercalate hmap (by simpa using hplain) (hsuffix.imp_left ?_)
    rintro rfl
    rfl
  exact String.toList_inj.mp ((hcut _).unique hsegments)

/-- An empty segment, a nested path with brackets of its own and a bracket that opens at once. -/
theorem shortTypeName_drops_path_nested :
    shortTypeName "game::::Slot<game::Pair<game::Id, std::Map<u8, game::Id>>>" =
        "Slot<game::Pair<game::Id, std::Map<u8, game::Id>>>" ∧
      shortTypeName "game::<other::Id>" = "<other::Id>" :=
  ⟨shortTypeName_drops_path.1 ["game", "", "Slot"] (by decide)
      "<game::Pair<game::Id, std::Map<u8, game::Id>>>" (by decide) (.inr rfl),
    shortTypeName_drops_path.1 ["game", ""] (by decide) "<other::Id>" (by decide) (.inr rfl)⟩

end KeyedStore
