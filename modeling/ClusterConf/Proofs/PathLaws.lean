import Mathlib.Data.List.Infix
import ClusterConf.Machine.FileTree
set_option autoImplicit false

/-!
Paths and the places that they name. A path names a place even where the directories on the way are
not there yet. Main statement: a path and the one with another extension name two places, unless the
path has that extension or ends in no name.
-/
namespace ClusterConf

namespace Path

theorem not_mem_of_mem_splitOn {α : Type} [BEq α] [LawfulBEq α] {a : α} {cs part : List α}
    (member : part ∈ cs.splitOn a) : a ∉ part := by
  induction cs generalizing part with
  | nil =>
    rw [List.splitOn_nil, List.mem_singleton] at member
    rw [member]
    exact List.not_mem_nil
  | cons c cs ih =>
    rw [List.splitOn_cons_eq_if_modifyHead] at member
    split at member
    · rcases List.mem_cons.mp member with rfl | later
      · exact List.not_mem_nil
      · exact ih later
    · rename_i different
      cases split : cs.splitOn a with
      | nil => exact absurd split (List.splitOn_ne_nil a cs)
      | cons first rest =>
        rw [split] at member ih
        rcases List.mem_cons.mp member with rfl | later
        · rw [List.mem_cons, not_or]
          exact ⟨fun same => different (by simp [same]), ih List.mem_cons_self⟩
        · exact ih (List.mem_cons_of_mem _ later)

theorem parts_ne_nil (p : String) : parts p ≠ [] := by
  rw [parts, ne_eq, List.map_eq_nil_iff]
  exact List.splitOn_ne_nil _ _

theorem slash_not_mem {p part : String} (member : part ∈ parts p) : '/' ∉ part.toList := by
  obtain ⟨cs, inside, rfl⟩ := List.mem_map.mp member
  rw [String.toList_ofList]
  exact not_mem_of_mem_splitOn inside

theorem intercalate_parts (p : String) : "/".intercalate (parts p) = p := by
  rw [← String.toList_inj, String.toList_intercalate, parts, List.map_map]
  have same : String.toList ∘ String.ofList = id := funext fun _ => String.toList_ofList
  rw [same, List.map_id]
  exact List.intercalate_splitOn '/'

/-- Parts without slashes are those of the path that is made of them. -/
theorem parts_intercalate {ps : List String} (some : ps ≠ [])
    (free : ∀ part ∈ ps, '/' ∉ part.toList) : parts ("/".intercalate ps) = ps := by
  have split : (['/'].intercalate (ps.map String.toList)).splitOn '/' = ps.map String.toList := by
    refine List.splitOn_intercalate '/' ?_ (by simpa using some)
    exact List.forall_mem_map.mpr free
  have same : String.ofList ∘ String.toList = id := funext fun _ => String.ofList_toList
  rw [parts, String.toList_intercalate, show "/".toList = ['/'] from rfl, split, List.map_map, same,
    List.map_id]

theorem isAbsolute_iff {p : String} :
    isAbsolute p = true ↔ ∃ part rest, parts p = "" :: part :: rest := by
  rw [isAbsolute, String.startsWith_string_iff]
  constructor
  · rintro ⟨cs, split⟩
    have shape : parts p = "" :: (cs.splitOn '/').map String.ofList := by
      rw [parts, ← split]
      rfl
    cases rest : cs.splitOn '/' with
    | nil => exact absurd rest (List.splitOn_ne_nil _ _)
    | cons part rest' =>
      rw [rest] at shape
      exact ⟨_, _, shape⟩
  · rintro ⟨part, rest, shape⟩
    have whole := intercalate_parts p
    rw [shape] at whole
    rw [← whole, String.toList_intercalate]
    exact ⟨_, rfl⟩

/-- A part of a path that names nothing. -/
def Silent (part : String) : Prop := part.isEmpty = true ∨ part = "."

/-- A part that names an entry of the directory before it. -/
def Names (part : String) : Prop := part.isEmpty = false ∧ part ≠ "." ∧ part ≠ ".."

theorem dropSilent_cons {part : String} {before : List String} (more : before ≠ []) :
    dropSilent (part :: before) =
      if part.isEmpty || part == "." then dropSilent before else part :: before := by
  cases before with
  | nil => exact absurd rfl more
  | cons next before => rfl

/-- What is dropped at the end says nothing. -/
theorem dropSilent_eq (ps : List String) :
    ∃ silent, ps = silent ++ dropSilent ps ∧ ∀ part ∈ silent, Silent part := by
  induction ps using dropSilent.induct with
  | case1 => exact ⟨[], rfl, List.forall_mem_nil _⟩
  | case2 part empty =>
    refine ⟨[part], ?_, List.forall_mem_singleton.mpr (.inl empty)⟩
    rw [dropSilent, if_pos empty]
    rfl
  | case3 part some =>
    refine ⟨[], ?_, List.forall_mem_nil _⟩
    rw [dropSilent, if_neg some]
    rfl
  | case4 part before more silent ih =>
    obtain ⟨dropped, split, all⟩ := ih
    refine ⟨part :: dropped, ?_, List.forall_mem_cons.mpr ⟨?_, all⟩⟩
    · rw [dropSilent_cons more, if_pos silent, List.cons_append, ← split]
    · simpa [Silent] using silent
  | case5 part before more spoken =>
    refine ⟨[], ?_, List.forall_mem_nil _⟩
    rw [List.nil_append, dropSilent_cons more, if_neg spoken]

/-- A part that ends what is said is not empty. -/
theorem some_of_dropSilent {ps before : List String} {part : String}
    (spoken : dropSilent ps = part :: before) : part.isEmpty = false := by
  induction ps using dropSilent.induct with
  | case1 => cases spoken
  | case2 part' empty =>
    rw [dropSilent, if_pos empty] at spoken
    cases spoken
  | case3 part' some =>
    rw [dropSilent, if_neg some] at spoken
    obtain ⟨rfl, -⟩ := List.cons.inj spoken
    simpa using some
  | case4 part' before' more silent ih =>
    rw [dropSilent_cons more, if_pos silent] at spoken
    exact ih spoken
  | case5 part' before' more said =>
    rw [dropSilent_cons more, if_neg said] at spoken
    obtain ⟨rfl, -⟩ := List.cons.inj spoken
    simp only [Bool.or_eq_true, not_or] at said
    simpa using said.1

/-- The parts in front of the relative ones: an empty one if the path starts at the root. -/
def rootParts (p : String) : List String := if isAbsolute p then [""] else []

theorem parts_eq_rootParts (p : String) :
    ∃ rest, parts p = rootParts p ++ rest ∧ spoken p =
      if isAbsolute p then spoken.dropRoot (dropSilent rest.reverse)
      else dropSilent rest.reverse := by
  by_cases absolute : isAbsolute p = true
  · obtain ⟨part, rest, shape⟩ := isAbsolute_iff.mp absolute
    refine ⟨part :: rest, ?_, ?_⟩
    · rw [rootParts, if_pos absolute, shape]
      rfl
    · rw [spoken, if_pos absolute, if_pos absolute, shape]
      rfl
  · refine ⟨parts p, ?_, ?_⟩
    · rw [rootParts, if_neg absolute]
      rfl
    · rw [spoken, if_neg absolute, if_neg absolute]

theorem eq_of_dropRoot {ps before : List String} {part : String}
    (said : spoken.dropRoot ps = part :: before) : ps = part :: before := by
  match ps, said with
  | [first], said =>
    rw [spoken.dropRoot] at said
    split at said
    · cases said
    · exact said
  | _ :: _ :: _, said => exact said

/-- The parts of a path up to the last one that says something, and silent ones after it. -/
theorem parts_of_spoken {p name : String} {before : List String}
    (said : spoken p = name :: before) :
    name.isEmpty = false ∧ ∃ silent, (∀ part ∈ silent, Silent part) ∧
      parts p = rootParts p ++ (before.reverse ++ name :: silent) := by
  obtain ⟨rest, shape, speaks⟩ := parts_eq_rootParts p
  have ends : dropSilent rest.reverse = name :: before := by
    rw [speaks] at said
    split at said
    · exact eq_of_dropRoot said
    · exact said
  obtain ⟨silent, split, all⟩ := dropSilent_eq rest.reverse
  refine ⟨some_of_dropSilent ends, silent.reverse, fun part member => ?_, ?_⟩
  · exact all part (List.mem_reverse.mp member)
  · have ordered := congrArg List.reverse split
    rw [List.reverse_reverse, ends, List.reverse_append, List.reverse_cons, List.append_assoc,
      List.singleton_append] at ordered
    rw [shape, ordered]

theorem parts_ofSpoken {absolute : Bool} {ps : List String} (some : ps ≠ [])
    (free : ∀ part ∈ ps, '/' ∉ part.toList) :
    parts (ofSpoken absolute ps) = (if absolute then [""] else []) ++ ps.reverse := by
  have someReversed : ps.reverse ≠ [] := by simpa using some
  have freeReversed : ∀ part ∈ ps.reverse, '/' ∉ part.toList := by
    intro part member
    exact free part (List.mem_reverse.mp member)
  cases absolute with
  | false =>
    have text : ofSpoken false ps = "/".intercalate ps.reverse := String.empty_append
    rw [text, parts_intercalate someReversed freeReversed]
    rfl
  | true =>
    have text : ofSpoken true ps = "/".intercalate ("" :: ps.reverse) := by
      rw [String.intercalate_cons_of_ne_nil someReversed, String.empty_append]
      rfl
    rw [text, parts_intercalate (List.cons_ne_nil _ _)]
    · rfl
    · refine List.forall_mem_cons.mpr ⟨?_, freeReversed⟩
      exact List.not_mem_nil

theorem intercalate_concat {α : Type} (sep x : List α) {xs : List (List α)} (some : xs ≠ []) :
    sep.intercalate (xs ++ [x]) = sep.intercalate xs ++ (sep ++ x) := by
  induction xs with
  | nil => exact absurd rfl some
  | cons y ys ih =>
    cases ys with
    | nil => simp [List.intercalate_cons_cons]
    | cons z zs =>
      have later := ih (List.cons_ne_nil z zs)
      rw [List.cons_append, List.cons_append, List.intercalate_cons_cons, ← List.cons_append, later,
        List.intercalate_cons_cons]
      simp

/-- A name has no extension, or it is the stem, a dot and the extension. -/
theorem splitName_cases (name : String) :
    splitName name = (name, none) ∨
      ∃ stem ext, splitName name = (stem, some ext) ∧ stem ++ "." ++ ext = name := by
  have whole : ['.'].intercalate (name.toList.splitOn '.') = name.toList :=
    List.intercalate_splitOn '.'
  unfold splitName
  generalize cut : (name.toList.splitOn '.').reverse = ps
  match ps with
  | [] | [_] => exact .inl rfl
  | last :: stem :: more =>
    have ordered : name.toList.splitOn '.' = (stem :: more).reverse ++ [last] := by
      rw [← List.reverse_inj, cut, List.reverse_append, List.reverse_reverse]
      rfl
    rw [ordered, intercalate_concat _ _ (by simp)] at whole
    simp only
    split
    · exact .inl rfl
    · refine .inr ⟨_, _, rfl, ?_⟩
      rw [← String.toList_inj, ← whole]
      simp only [String.toList_append, String.toList_ofList, List.append_assoc]
      rfl

theorem splitName_ne {name ext : String} (other : (splitName name).2 ≠ some ext) :
    (splitName name).1 ++ "." ++ ext ≠ name := by
  rcases splitName_cases name with cut | ⟨stem, ext', cut, whole⟩
  · rw [cut]
    intro same
    have length := congrArg (fun s => s.toList.length) same
    simp at length
  · rw [cut] at other ⊢
    intro same
    refine other (congrArg Option.some ?_)
    simp only [← whole, ← String.toList_inj, String.toList_append] at same
    exact String.toList_inj.mp (List.append_cancel_left same).symm

theorem slash_not_mem_stem {name : String} (free : '/' ∉ name.toList) :
    '/' ∉ (splitName name).1.toList := by
  rcases splitName_cases name with cut | ⟨stem, ext, cut, whole⟩
  · rw [cut]
    exact free
  · rw [cut]
    intro inside
    rw [← whole, String.toList_append, String.toList_append, List.append_assoc] at free
    exact free (List.mem_append_left _ inside)

/-- The parts of a path with a name, and of the path with another extension. -/
theorem parts_withExtension {p ext name : String} (free : '/' ∉ ext.toList)
    (named : fileName? p = some name) :
    Names name ∧ ∃ before silent, (∀ part ∈ silent, Silent part) ∧
      parts p = rootParts p ++ (before ++ name :: silent) ∧
      parts (withExtension p ext) =
        rootParts p ++ (before ++ [(splitName name).1 ++ "." ++ ext]) := by
  have said : ∃ before, spoken p = name :: before ∧ name ≠ "." ∧ name ≠ ".." := by
    unfold fileName? at named
    split at named
    · rename_i name' before said
      split at named
      · cases named
      · rename_i proper
        obtain rfl := Option.some.inj named
        simp only [Bool.or_eq_true, beq_iff_eq, not_or] at proper
        exact ⟨before, said, proper.2, proper.1⟩
    · cases named
  obtain ⟨before, said, notDot, notDots⟩ := said
  obtain ⟨some, silent, all, shape⟩ := parts_of_spoken said
  have inside : ∀ part ∈ name :: before, '/' ∉ part.toList := by
    intro part member
    refine slash_not_mem (p := p) ?_
    rw [shape]
    refine List.mem_append_right _ (List.mem_append.mpr ?_)
    rcases List.mem_cons.mp member with rfl | earlier
    · exact .inr List.mem_cons_self
    · exact .inl (List.mem_reverse.mpr earlier)
  have freeAll : ∀ part ∈ ((splitName name).1 ++ "." ++ ext) :: before, '/' ∉ part.toList := by
    refine List.forall_mem_cons.mpr ⟨?_, fun part member => inside part ?_⟩
    · rw [String.toList_append, String.toList_append, List.mem_append, List.mem_append, not_or,
        not_or]
      exact ⟨⟨slash_not_mem_stem (inside name List.mem_cons_self), by decide⟩, free⟩
    · exact List.mem_cons_of_mem _ member
  refine ⟨⟨some, notDot, notDots⟩, before.reverse, silent, all, shape, ?_⟩
  unfold withExtension
  rw [named, said]
  simp only
  rw [parts_ofSpoken (List.cons_ne_nil _ _) freeAll, List.reverse_cons]
  rfl

theorem withExtension_of_unnamed {p : String} (unnamed : fileName? p = none) (ext : String) :
    withExtension p ext = p := by
  unfold withExtension
  rw [unnamed]

theorem isAbsolute_withExtension {p ext : String} (free : '/' ∉ ext.toList) :
    isAbsolute (withExtension p ext) = isAbsolute p := by
  cases named : fileName? p with
  | none => rw [withExtension_of_unnamed named]
  | some name =>
    obtain ⟨-, before, silent, -, shape, extended⟩ := parts_withExtension free named
    rw [Bool.eq_iff_iff]
    by_cases absolute : isAbsolute p = true
    · refine iff_of_true (isAbsolute_iff.mpr ?_) absolute
      rw [extended, rootParts, if_pos absolute]
      cases before <;> exact ⟨_, _, rfl⟩
    · refine iff_of_false ?_ absolute
      rw [rootParts, if_neg absolute, List.nil_append] at shape extended
      rw [isAbsolute_iff] at absolute ⊢
      rintro ⟨part, rest, start⟩
      rw [extended] at start
      cases before with
      | nil => cases (List.cons.inj start).2
      | cons first before =>
        obtain ⟨rfl, -⟩ := List.cons.inj start
        refine absolute ?_
        rw [shape]
        cases before <;> exact ⟨_, _, rfl⟩

/-- A path of which nothing is left has only parts that say nothing. -/
theorem silent_of_spoken {p : String} (said : spoken p = []) : ∀ part ∈ parts p, Silent part := by
  obtain ⟨rest, shape, speaks⟩ := parts_eq_rootParts p
  obtain ⟨silent, split, all⟩ := dropSilent_eq rest.reverse
  have ends : ∀ part ∈ dropSilent rest.reverse, Silent part := by
    rw [speaks] at said
    split at said
    · generalize dropSilent rest.reverse = ps at said
      match ps, said with
      | [], _ => exact List.forall_mem_nil _
      | [part], said =>
        rw [spoken.dropRoot] at said
        split at said
        · rename_i dot
          exact List.forall_mem_singleton.mpr (.inr (beq_iff_eq.mp dot))
        · cases said
    · rw [said]
      exact List.forall_mem_nil _
  intro part member
  rw [shape, List.mem_append] at member
  rcases member with root | later
  · unfold rootParts at root
    split at root
    · rw [List.mem_singleton.mp root]
      exact .inl rfl
    · cases root
  · rw [← List.mem_reverse, split, List.mem_append] at later
    rcases later with dropped | kept
    · exact all part dropped
    · exact ends part kept

/-- A path without a name ends in a part that leads to a directory. -/
theorem parts_of_unnamed {p : String} (unnamed : fileName? p = none) :
    ∃ before part silent, parts p = before ++ part :: silent ∧ (Silent part ∨ part = "..") ∧
      ∀ part ∈ silent, Silent part := by
  cases said : spoken p with
  | cons name before =>
    obtain ⟨-, silent, all, shape⟩ := parts_of_spoken said
    unfold fileName? at unnamed
    rw [said] at unnamed
    simp only at unnamed
    split at unnamed
    · rename_i dots
      simp only [Bool.or_eq_true, beq_iff_eq] at dots
      refine ⟨rootParts p ++ before.reverse, name, silent, ?_, ?_, all⟩
      · rw [shape, List.append_assoc]
      · exact dots.symm.imp_left .inr
    · cases unnamed
  | nil =>
    have every := silent_of_spoken said
    cases whole : parts p with
    | nil => exact absurd whole (parts_ne_nil p)
    | cons part later =>
      rw [whole] at every
      obtain ⟨first, others⟩ := List.forall_mem_cons.mp every
      exact ⟨[], part, later, rfl, .inl first, others⟩

end Path

end ClusterConf
