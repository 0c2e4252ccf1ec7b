import ClusterConf.Machine.SnapshotFile
import ClusterConf.Proofs.Mishaps
set_option autoImplicit false

/-!
The search for a snapshot file in a directory and then in those above it. It goes up by shortening
the path that it was given, and so it ends where that path ends. Main statement: which entry the
search finds, and when that is the one in the nearest directory from the first one up to the root.
-/
namespace ClusterConf

open Program

namespace Path

/-! ## Parents -/

/-- Whether a part of a path leads somewhere. -/
def leads (part : String) : Bool := !(part.isEmpty || part == ".")

/-- The parts of a path that lead somewhere, in order. -/
def steps (p : String) : List String := (parts p).filter leads

theorem filter_silent {ps : List String} (all : ∀ part ∈ ps, Silent part) :
    ps.filter leads = [] := by
  rw [List.filter_eq_nil_iff]
  intro part member
  rcases all part member with empty | dot
  · simp [leads, empty]
  · simp [leads, dot]

/-- A dot is kept at the end only if nothing is before it. -/
theorem nil_of_dropSilent {ps before : List String} (kept : dropSilent ps = "." :: before) :
    before = [] := by
  induction ps using dropSilent.induct with
  | case1 => cases kept
  | case2 part empty =>
    rw [dropSilent, if_pos empty] at kept
    cases kept
  | case3 part some =>
    rw [dropSilent, if_neg some] at kept
    exact (List.cons.inj kept).2.symm
  | case4 part before' more silent ih =>
    rw [dropSilent_cons more, if_pos silent] at kept
    exact ih kept
  | case5 part before' more speaks =>
    rw [dropSilent_cons more, if_neg speaks] at kept
    rw [(List.cons.inj kept).1] at speaks
    exact absurd (by decide) speaks

theorem nil_of_spoken {p : String} {before : List String} (said : spoken p = "." :: before) :
    before = [] := by
  obtain ⟨rest, -, speaks⟩ := parts_eq_rootParts p
  rw [speaks] at said
  split at said
  · exact nil_of_dropSilent (eq_of_dropRoot said)
  · exact nil_of_dropSilent said

theorem dropRoot_eq (ps : List String) :
    ∃ silent, ps = silent ++ spoken.dropRoot ps ∧ ∀ part ∈ silent, Silent part := by
  match ps with
  | [] | _ :: _ :: _ => exact ⟨[], rfl, List.forall_mem_nil _⟩
  | [part] =>
    rw [spoken.dropRoot]
    split
    · rename_i dot
      exact ⟨[part], rfl, List.forall_mem_singleton.mpr (.inr (beq_iff_eq.mp dot))⟩
    · exact ⟨[], rfl, List.forall_mem_nil _⟩

/-- What a parent keeps of the parts before the last one that says something, last first. -/
def kept (absolute : Bool) (before : List String) : List String :=
  if absolute then spoken.dropRoot (dropSilent before) else dropSilent before

theorem kept_eq (absolute : Bool) (before : List String) :
    ∃ silent, before = silent ++ kept absolute before ∧ ∀ part ∈ silent, Silent part := by
  obtain ⟨dropped, split, silent⟩ := dropSilent_eq before
  cases absolute with
  | false => exact ⟨dropped, split, silent⟩
  | true =>
    obtain ⟨root, split', silent'⟩ := dropRoot_eq (dropSilent before)
    refine ⟨dropped ++ root, ?_, List.forall_mem_append.mpr ⟨silent, silent'⟩⟩
    rw [List.append_assoc, kept, if_pos rfl, ← split', ← split]

/-- A path and its parent: what the parent is made of, and the parts that it lacks. -/
theorem parent?_cases {p q : String} (above : parent? p = some q) :
    ∃ ps between name after, q = ofSpoken (isAbsolute p) ps ∧
      parts p = rootParts p ++ (ps.reverse ++ (between ++ name :: after)) ∧
      (∀ part ∈ between, Silent part) ∧ (∀ part ∈ after, Silent part) ∧
      name.isEmpty = false ∧ (name = "." → ps = []) := by
  unfold parent? at above
  split at above
  · cases above
  · rename_i name before said
    obtain ⟨some, after, all, shape⟩ := parts_of_spoken said
    obtain ⟨lost, whole, silent⟩ := kept_eq (isAbsolute p) before
    have ordered : before.reverse = (kept (isAbsolute p) before).reverse ++ lost.reverse := by
      rw [← List.reverse_append, ← whole]
    refine ⟨kept (isAbsolute p) before, lost.reverse, name, after, (Option.some.inj above).symm, ?_,
      ?_, all, some, ?_⟩
    · rw [shape, ordered, List.append_assoc]
    · intro part member
      exact silent part (List.mem_reverse.mp member)
    · rintro rfl
      rw [nil_of_spoken said] at whole ⊢
      exact (List.append_eq_nil_iff.mp whole.symm).2

theorem parts_parent {p : String} {ps rest : List String}
    (shape : parts p = rootParts p ++ (ps.reverse ++ rest)) (some : ps ≠ []) :
    parts (ofSpoken (isAbsolute p) ps) = rootParts p ++ ps.reverse := by
  refine parts_ofSpoken some fun part member => slash_not_mem (p := p) ?_
  rw [shape]
  exact List.mem_append_right _ (List.mem_append_left _ (List.mem_reverse.mpr member))

/-- The parent of a path lacks its last step. -/
theorem steps_parent {p q : String} (above : parent? p = some q) :
    steps q = (steps p).dropLast := by
  obtain ⟨ps, between, name, after, rfl, shape, silent, all, some, first⟩ := parent?_cases above
  have root : (rootParts p).filter leads = [] := by
    unfold rootParts
    split <;> rfl
  have short : steps (ofSpoken (isAbsolute p) ps) = ps.reverse.filter leads := by
    by_cases none : ps = []
    · rw [none]
      cases isAbsolute p <;> decide +kernel
    · rw [steps, parts_parent shape none, List.filter_append, root, List.nil_append]
  have long : steps p = steps (ofSpoken (isAbsolute p) ps) ++ [name].filter leads := by
    rw [steps, shape, List.filter_append, root, List.nil_append, List.filter_append, ← short,
      List.filter_append, filter_silent silent, List.nil_append, ← List.singleton_append,
      List.filter_append, filter_silent all, List.append_nil]
  by_cases dot : name = "."
  · rw [first dot] at long
    rw [long, first dot, dot]
    cases isAbsolute p <;> decide +kernel
  · rw [long, List.filter_cons_of_pos (by simp [leads, some, dot]), List.filter_nil,
      List.dropLast_concat]

/-- A path that has no parent leads nowhere. -/
theorem steps_of_no_parent {p : String} (none : parent? p = none) : steps p = [] := by
  unfold parent? at none
  split at none
  · rename_i said
    exact filter_silent (silent_of_spoken said)
  · cases none

/-- A path is its parent and more text. -/
theorem parent_prefix {p q : String} (above : parent? p = some q) :
    ∃ rest, rest ≠ "" ∧ p = q ++ rest := by
  obtain ⟨ps, between, name, after, rfl, shape, -⟩ := parent?_cases above
  by_cases none : ps = []
  · rw [none] at above ⊢
    cases absolute : isAbsolute p with
    | true =>
      obtain ⟨rest, whole⟩ := String.startsWith_string_iff.mp absolute
      have text : p = "/" ++ String.ofList rest := by
        rw [← String.toList_inj, ← whole, String.toList_append]
        simp
      refine ⟨String.ofList rest, ?_, text⟩
      intro empty
      have root : parent? ("/" ++ "") = Option.none := by decide +kernel
      rw [text, empty, root] at above
      cases above
    | false =>
      refine ⟨p, ?_, String.empty_append.symm⟩
      rintro rfl
      cases above
  · have front : rootParts p ++ ps.reverse ≠ [] := by simp [none]
    have text := intercalate_parts (ofSpoken (isAbsolute p) ps)
    rw [parts_parent shape none] at text
    have whole := intercalate_parts p
    rw [shape, ← List.append_assoc, String.intercalate_append_of_ne_nil front (by simp), text,
      String.append_assoc] at whole
    exact ⟨_, by simp, whole.symm⟩

theorem length_parent {p q : String} (above : parent? p = some q) : q.length < p.length := by
  obtain ⟨rest, some, whole⟩ := parent_prefix above
  have longer : 0 < rest.length := by
    rw [Nat.pos_iff_ne_zero, ne_eq, String.length_eq_zero_iff]
    exact some
  rw [whole, String.length_append]
  omega

theorem isAbsolute_append {p : String} (some : p ≠ "") (rest : String) :
    isAbsolute (p ++ rest) = isAbsolute p := by
  rw [Bool.eq_iff_iff, isAbsolute, isAbsolute, String.startsWith_string_iff,
    String.startsWith_string_iff, String.toList_append]
  cases text : p.toList with
  | nil => exact absurd (String.toList_inj.mp text) some
  | cons c cs => simp

theorem isAbsolute_parent {p q : String} (above : parent? p = some q) :
    isAbsolute q = isAbsolute p := by
  obtain ⟨rest, -, whole⟩ := parent_prefix above
  by_cases empty : q = ""
  · obtain ⟨ps, _, _, _, made, -⟩ := parent?_cases above
    cases absolute : isAbsolute p with
    | true =>
      rw [absolute, ofSpoken, if_pos rfl] at made
      simp [made] at empty
    | false =>
      rw [empty]
      rfl
  · rw [whole, isAbsolute_append empty]

/-! ## Names in directories -/

theorem isAbsolute_of_free {name : String} (free : '/' ∉ name.toList) :
    isAbsolute name = false := by
  rw [Bool.eq_false_iff, ne_eq, isAbsolute, String.startsWith_string_iff]
  exact fun starts => free (starts.subset List.mem_cons_self)

/-- A name in a directory stands behind a slash, unless the directory is the empty path. -/
theorem join_cases (dir : String) {name : String} (free : '/' ∉ name.toList) :
    dir = "" ∧ join dir name = name ∨
      ∃ front, (dir = front ∧ dir ≠ "" ∨ dir = front ++ "/") ∧
        join dir name = front ++ "/" ++ name := by
  rw [join, isAbsolute_of_free free, Bool.false_or]
  by_cases empty : dir = ""
  · exact .inl ⟨empty, by simp [empty]⟩
  · rw [if_neg (by simpa using empty)]
    split
    · rename_i slash
      rw [String.endsWith_eq_endsWith_toSlice, String.Slice.endsWith_string_iff,
        String.copy_toSlice] at slash
      obtain ⟨front, whole⟩ := slash
      have text : dir = String.ofList front ++ "/" := by
        rw [← String.toList_inj, ← whole, String.toList_append]
        simp
      exact .inr ⟨String.ofList front, .inr text, by rw [text]⟩
    · exact .inr ⟨dir, .inl ⟨rfl, empty⟩, rfl⟩

theorem join_text (dir : String) {name : String} (free : '/' ∉ name.toList) :
    ∃ between, (between = "" ∨ between = "/") ∧ join dir name = dir ++ between ++ name := by
  rcases join_cases dir free with ⟨rfl, joined⟩ | ⟨front, ⟨rfl, -⟩ | slash, joined⟩
  · exact ⟨"", .inl rfl, by simp [joined]⟩
  · exact ⟨"/", .inr rfl, joined⟩
  · exact ⟨"", .inl rfl, by rw [joined, slash, String.append_empty]⟩

theorem parts_concat (front : String) {name : String} (free : '/' ∉ name.toList) :
    parts (front ++ "/" ++ name) = parts front ++ [name] := by
  have inside : ∀ part ∈ parts front ++ [name], '/' ∉ part.toList := by
    refine List.forall_mem_append.mpr ⟨fun part member => slash_not_mem member, ?_⟩
    exact List.forall_mem_singleton.mpr free
  rw [← parts_intercalate (by simp) inside,
    String.intercalate_append_of_ne_nil (parts_ne_nil front) (by simp), intercalate_parts,
    String.intercalate_singleton]

end Path

namespace FileTree

/-- A name in a directory leads to an entry of the place to which the directory leads. -/
theorem follow?_join (t : FileTree) (cwd : Place) (dir : String) {name : String}
    (free : '/' ∉ name.toList) :
    t.follow? (start cwd (Path.join dir name)) (Path.parts (Path.join dir name)) =
      (t.follow? (start cwd dir) (Path.parts dir)).bind fun q => t.follow? q [name] := by
  have skips (q : Place) :
      ((t.follow? q [""]).bind fun q => t.follow? q [name]) = t.follow? q [name] := by
    cases directory : t.isDirectory q <;> simp [follow?, directory]
  rcases Path.join_cases dir free with ⟨rfl, joined⟩ | ⟨front, same | slash, joined⟩
  · have alone : Path.parts name = [name] := by
      simpa using Path.parts_intercalate (List.cons_ne_nil name []) (by simpa using free)
    have relative : start cwd name = start cwd "" := by
      rw [start, start, Path.isAbsolute_of_free free]
      rfl
    rw [joined, alone, relative]
    exact (skips _).symm
  · obtain ⟨rfl, some⟩ := same
    rw [joined, Path.parts_concat _ free, start, String.append_assoc, Path.isAbsolute_append some,
      follow?_append]
    rfl
  · have ends : Path.parts dir = Path.parts front ++ [""] := by
      rw [slash, ← Path.parts_concat front List.not_mem_nil, String.append_empty]
    have some : dir ≠ "" := by simp [slash]
    rw [joined, Path.parts_concat _ free, ← slash, start, Path.isAbsolute_append some,
      follow?_append, ends, follow?_append, Option.bind_assoc]
    simp only [skips]
    rfl

/-- The parts of a path lead from one place to a directory. -/
def Reaches (t : FileTree) (base : Place) (ps : List String) (place : Place) : Prop :=
  t.follow? base ps = some place ∧ t.isDirectory place = true

namespace Reaches

variable {t : FileTree} {base place : Place} {ps : List String}

theorem cons_iff {part : String} :
    t.Reaches base (part :: ps) place ↔
      ∃ q, t.follow? base [part] = some q ∧ t.Reaches q ps place := by
  rw [Reaches, ← List.singleton_append, follow?_append, Option.bind_eq_some_iff]
  simp only [Reaches, ← and_assoc, exists_and_right]

theorem directory (reaches : t.Reaches base ps place) : t.isDirectory base = true := by
  cases ps with
  | nil =>
    obtain ⟨same, directory⟩ := reaches
    rwa [Option.some.inj same]
  | cons part rest =>
    have followed := reaches.1
    rw [follow?] at followed
    split at followed
    · cases followed
    · rename_i directory
      simpa using directory

theorem filter_iff : t.Reaches base (ps.filter Path.leads) place ↔ t.Reaches base ps place := by
  induction ps generalizing base with
  | nil => rfl
  | cons part rest ih =>
    cases silent : part.isEmpty || part == "." with
    | true =>
      rw [List.filter_cons_of_neg (by simp [Path.leads, silent]), ih, cons_iff, follow?,
        if_pos silent]
      constructor
      · intro reaches
        exact ⟨base, by simp [reaches.directory, follow?], reaches⟩
      · rintro ⟨q, stays, reaches⟩
        split at stays
        · cases stays
        · rwa [Option.some.inj stays]
    | false =>
      rw [List.filter_cons_of_pos (by simp [Path.leads, silent]), cons_iff, cons_iff]
      simp only [ih]

/-- Before its last step a way leads to a directory. -/
theorem front {part : String} (reaches : t.Reaches base (ps ++ [part]) place) :
    t.Reaches base ps (walk base ps) := by
  obtain ⟨followed, directory⟩ := reaches
  rw [follow?_append] at followed
  obtain ⟨q, first, last⟩ := Option.bind_eq_some_iff.mp followed
  rw [← follow?_eq first]
  exact ⟨first, Reaches.directory ⟨last, directory⟩⟩

end Reaches

/-! ## The nearest snapshot file -/

/-- A list and what is left of it as its last items are taken away: of a place, the place and those
above it up to the root. -/
def upward (place : List String) : List (List String) := place.inits.reverse

@[simp] theorem upward_nil : upward [] = [[]] := rfl

@[simp] theorem upward_concat (xs : List String) (x : String) :
    upward (xs ++ [x]) = (xs ++ [x]) :: upward xs := by
  simp [upward, List.inits_append]

/-- Upward from below a place there are first the places on the way up to it, itself included, and
then those above it. -/
theorem upward_append (base ps : List String) :
    ∃ above, upward (base ++ ps) = (upward ps).map (base ++ ·) ++ above ∧
      ∀ place ∈ above, place.length < base.length := by
  induction ps using List.reverseRecOn with
  | nil =>
    rcases List.eq_nil_or_concat' base with rfl | ⟨front, last, rfl⟩
    · exact ⟨[], rfl, List.forall_mem_nil _⟩
    · refine ⟨upward front, by simp, fun place member => ?_⟩
      have short := (List.mem_inits place front).mp (List.mem_reverse.mp member)
      have bound := short.length_le
      rw [List.length_append, List.length_singleton]
      omega
  | append_singleton ps last ih =>
    obtain ⟨above, split, short⟩ := ih
    refine ⟨above, ?_, short⟩
    rw [← List.append_assoc, upward_concat, split, upward_concat, List.map_cons, List.cons_append,
      List.append_assoc]

theorem walk_of_names {ps : List String} (all : ∀ part ∈ ps, Path.Names part) (base : Place) :
    walk base ps = base ++ ps := by
  induction ps generalizing base with
  | nil => simp [walk]
  | cons part rest ih =>
    obtain ⟨first, later⟩ := List.forall_mem_cons.mp all
    rw [walk_names first, ih later, List.append_assoc, List.singleton_append]

/-- The first default name in a directory under which something is there. -/
def snapshotIn? (t : FileTree) (dir : Place) : Option Place :=
  (SnapshotFile.defaultNames.map fun name => dir ++ [name]).find? fun entry =>
    (t.entry? entry).isSome

/-- What `snapshotIn?` finds in the first of some directories in which it finds anything. -/
def nearest? (t : FileTree) (dirs : List Place) : Option Place := dirs.findSome? t.snapshotIn?

theorem nearest?_cons (t : FileTree) (dir : Place) (dirs : List Place) :
    t.nearest? (dir :: dirs) = (t.snapshotIn? dir).or (t.nearest? dirs) := by
  rw [nearest?, List.findSome?_cons]
  cases t.snapshotIn? dir <;> rfl

@[simp] theorem nearest?_singleton (t : FileTree) (dir : Place) :
    t.nearest? [dir] = t.snapshotIn? dir := by
  rw [nearest?_cons]
  exact Option.or_none

theorem nearest?_append (t : FileTree) (front back : List Place) :
    t.nearest? (front ++ back) = (t.nearest? front).or (t.nearest? back) :=
  List.findSome?_append

theorem mem_of_nearest? {t : FileTree} {dirs : List Place} {entry : Place}
    (found : t.nearest? dirs = some entry) : entry.dropLast ∈ dirs := by
  obtain ⟨dir, member, found⟩ := List.exists_of_findSome?_eq_some found
  obtain ⟨name, -, rfl⟩ := List.mem_map.mp (List.mem_of_find?_eq_some found)
  rwa [List.dropLast_concat]

/-- Looking upward only as far as some place finds the nearest snapshot file exactly if that is not
above the place. -/
theorem nearest?_below_iff {t : FileTree} {base : Place} {ps : List String} :
    t.nearest? ((upward ps).map (base ++ ·)) = t.nearest? (upward (base ++ ps)) ↔
      ∀ entry, t.nearest? (upward (base ++ ps)) = some entry → base <+: entry.dropLast := by
  have inside {entry : Place} (found : t.nearest? ((upward ps).map (base ++ ·)) = some entry) :
      base <+: entry.dropLast := by
    obtain ⟨rest, -, split⟩ := List.mem_map.mp (mem_of_nearest? found)
    exact ⟨rest, split⟩
  obtain ⟨above, split, short⟩ := upward_append base ps
  constructor
  · intro same entry found
    exact inside (same.trans found)
  · intro below
    rw [split, nearest?_append] at below ⊢
    cases near : t.nearest? ((upward ps).map (base ++ ·)) with
    | some entry => rfl
    | none =>
      rw [near, Option.none_or] at below
      rw [Option.none_or]
      cases far : t.nearest? above with
      | none => rfl
      | some entry =>
        have longer := (below entry far).length_le
        have shorter := short _ (mem_of_nearest? far)
        omega

end FileTree

namespace SnapshotFile

open Session (call)
open FileTree (Reaches)
open ClusterConf.Path (Names)

theorem names_default : ∀ name ∈ defaultNames, Names name ∧ '/' ∉ name.toList := by
  simp only [Names]
  decide +kernel

theorem resolve?_join {t : FileTree} {cwd place : Place} {dir name : String}
    (reaches : t.Reaches (FileTree.start cwd dir) (Path.parts dir) place)
    (default : name ∈ defaultNames) (fits : FileTree.isPath (Path.join dir name) = true) :
    t.resolve? cwd (Path.join dir name) =
      if (t.entry? (place ++ [name])).isSome then some (place ++ [name]) else none := by
  obtain ⟨names, free⟩ := names_default name default
  have some : (Path.join dir name).isEmpty = false := by
    rcases Path.join_cases dir free with ⟨-, joined⟩ | ⟨front, -, joined⟩
    · rw [joined]
      exact names.1
    · rw [joined]
      simp
  rw [FileTree.resolve?, if_neg (by simp [some, fits]), t.follow?_join cwd dir free, reaches.1,
    Option.bind_some]
  split
  · rename_i there
    exact FileTree.follow?_names names reaches.2 there
  · rename_i absent
    obtain ⟨some, notDot, notDots⟩ := names
    rw [FileTree.follow?, if_neg (by simp [reaches.2]), if_neg (by simp [some, notDot]),
      if_neg (by simpa using notDots)]
    simp only
    rw [if_neg absent]

theorem findSome?_congr {α β : Type} {f g : α → Option β} {xs : List α}
    (same : ∀ x ∈ xs, f x = g x) : xs.findSome? f = xs.findSome? g := by
  induction xs with
  | nil => rfl
  | cons x xs ih =>
    obtain ⟨first, rest⟩ := List.forall_mem_cons.mp same
    rw [List.findSome?_cons, List.findSome?_cons, first, ih rest]

/-- Of the paths to the default names in a directory, the first that leads anywhere. -/
theorem findSome?_join {t : FileTree} {cwd place : Place} {dir : String}
    (reaches : t.Reaches (FileTree.start cwd dir) (Path.parts dir) place)
    (fits : ∀ name ∈ defaultNames, FileTree.isPath (Path.join dir name) = true) :
    (defaultNames.map (Path.join dir)).findSome? (t.resolve? cwd) = t.snapshotIn? place := by
  rw [FileTree.snapshotIn?, List.find?_eq_findSome?_guard, List.findSome?_map, List.findSome?_map]
  exact findSome?_congr fun name default => resolve?_join reaches default (fits name default)

/-! ## Runs of the search -/

/-- The directories that are searched, by their paths. -/
def searched (dir : String) : List String :=
  dir ::
    match _above : Path.parent? dir with
    | some parent => searched parent
    | none => []
termination_by dir.length
decreasing_by exact Path.length_parent _above

/-- The paths at which a snapshot file is looked for. -/
def tried (start : String) : List String :=
  (searched start).flatMap fun dir => defaultNames.map (Path.join dir)

theorem searched_of_parent {dir parent : String} (above : Path.parent? dir = some parent) :
    searched dir = dir :: searched parent := by
  rw [searched]
  split
  · rename_i parent' above'
    rw [above] at above'
    rw [Option.some.inj above']
  · rename_i none
    rw [above] at none
    cases none

theorem searched_of_no_parent {dir : String} (none : Path.parent? dir = none) :
    searched dir = [dir] := by
  rw [searched]
  split
  · rename_i parent above
    rw [none] at above
    cases above
  · rfl

theorem exec_findIn (dir : String) (names : List String) (w : World) :
    (findIn dir names).exec World.serve w =
      ((names.map (Path.join dir)).find? (w.files.pathExists w.cwd), w) := by
  induction names with
  | nil => rfl
  | cons name rest ih =>
    rw [findIn, exec_bind, List.map_cons, List.find?_cons]
    have asked : (call (.pathExists (Path.join dir name))).exec World.serve w =
        (w.files.pathExists w.cwd (Path.join dir name), w) := rfl
    rw [asked]
    cases w.files.pathExists w.cwd (Path.join dir name) with
    | true => rfl
    | false => exact ih

theorem exec_findUp {fuel : Nat} {dir : String} (enough : dir.length < fuel) (w : World) :
    (findUp fuel dir).exec World.serve w = ((tried dir).find? (w.files.pathExists w.cwd), w) := by
  induction fuel generalizing dir with
  | zero => omega
  | succ fuel ih =>
    rw [findUp, exec_bind, exec_findIn]
    cases above : Path.parent? dir with
    | none =>
      rw [tried, searched_of_no_parent above, List.flatMap_singleton]
      cases (defaultNames.map (Path.join dir)).find? (w.files.pathExists w.cwd) <;> rfl
    | some parent =>
      rw [tried, searched_of_parent above, List.flatMap_cons, List.find?_append]
      cases (defaultNames.map (Path.join dir)).find? (w.files.pathExists w.cwd) with
      | some path => rfl
      | none => exact ih (by have := Path.length_parent above; omega)

/-- The search goes through its paths and ends at the first one that leads anywhere. -/
theorem exec_find (start : String) (w : World) :
    (find start).run.exec World.serve w =
      match (tried start).find? (w.files.pathExists w.cwd) with
      | some path =>
        (.ok path, (World.serve (.note (.info .snapshotFiles s!"Found snapshot file: {path}")) w).2)
      | none => (.error (.config (.fileNotFound (Path.join start "gridconf.yaml"))), w) := by
  have looks : (find start).run = findUp (start.length + 1) start >>= fun
      | some path => .ask (.note (.info .snapshotFiles s!"Found snapshot file: {path}")) fun _ =>
          .done (.ok path)
      | none => .done (.error (.config (.fileNotFound (Path.join start "gridconf.yaml")))) := by
    refine (ExceptT.run_bind_lift _ _).trans (bind_congr fun found => ?_)
    cases found <;> rfl
  rw [looks, exec_bind, exec_findUp (Nat.lt_succ_self _)]
  cases (tried start).find? (w.files.pathExists w.cwd) <;> rfl

/-! ## What the search answers -/

/-- The directories in which the search looks, if its paths lead to directories. -/
def visited (cwd : Place) (start : String) : List Place :=
  (FileTree.upward (Path.steps start)).map (FileTree.walk (FileTree.start cwd start))

/-- Without `..` these are the directories from the start upward to where its path begins. -/
theorem visited_of_plain {start : String} (plain : ".." ∉ Path.parts start) (cwd : Place) :
    visited cwd start = (FileTree.upward (Path.steps start)).map (FileTree.start cwd start ++ ·) ∧
      FileTree.walk (FileTree.start cwd start) (Path.steps start) =
        FileTree.start cwd start ++ Path.steps start := by
  have names : ∀ part ∈ Path.steps start, Names part := by
    intro part member
    obtain ⟨member, speaks⟩ := List.mem_filter.mp member
    simp only [Path.leads, Bool.not_eq_true', Bool.or_eq_false_iff, beq_eq_false_iff_ne] at speaks
    exact ⟨speaks.1, speaks.2, fun dots => plain (dots ▸ member)⟩
  refine ⟨List.map_congr_left fun ps member => ?_, FileTree.walk_of_names names _⟩
  have front := (List.mem_inits ps _).mp (List.mem_reverse.mp member)
  exact FileTree.walk_of_names (fun part member => names part (front.subset member)) _

/-- The search answers with a path to an entry, or with the error that there is none. -/
def Answers (w : World) (start : String) : Option Place → Prop
  | some entry => ∃ path, ((find start).run.exec World.serve w).1 = .ok path ∧
      w.files.resolve? w.cwd path = some entry
  | none => ((find start).run.exec World.serve w).1 =
      .error (.config (.fileNotFound (Path.join start "gridconf.yaml")))

theorem findSome?_eq_bind {α β : Type} (f : α → Option β) (xs : List α) :
    xs.findSome? f = (xs.find? fun x => (f x).isSome).bind f := by
  induction xs with
  | nil => rfl
  | cons x xs ih =>
    rw [List.findSome?_cons, List.find?_cons]
    cases first : f x with
    | some b => exact first.symm
    | none => exact ih

/-- The search answers with the first of its paths that leads anywhere. -/
theorem answers_iff {w : World} {start : String} {wanted : Option Place} :
    Answers w start wanted ↔ (tried start).findSome? (w.files.resolve? w.cwd) = wanted := by
  have run := congrArg Prod.fst (exec_find start w)
  rw [findSome?_eq_bind]
  change _ ↔ ((tried start).find? (w.files.pathExists w.cwd)).bind _ = wanted
  cases found : (tried start).find? (w.files.pathExists w.cwd) with
  | none =>
    rw [found] at run
    cases wanted with
    | none => exact iff_of_true run rfl
    | some entry =>
      refine iff_of_false ?_ nofun
      rintro ⟨path, ends, -⟩
      cases run.symm.trans ends
  | some path =>
    rw [found] at run
    have leads := List.find?_some found
    obtain ⟨entry, resolved⟩ := Option.isSome_iff_exists.mp leads
    rw [Option.bind_some, resolved]
    cases wanted with
    | none => exact iff_of_false (fun fails => by cases run.symm.trans fails) nofun
    | some other =>
      constructor
      · rintro ⟨path', ends, resolved'⟩
        obtain rfl := Except.ok.inj (run.symm.trans ends)
        exact resolved.symm.trans resolved'
      · intro same
        exact ⟨path, run, resolved.trans same⟩

/-- From the dot, with which the commands start, the search looks in the current directory only. -/
theorem visited_dot (cwd : Place) : visited cwd "." = [cwd] := by
  have still : Path.steps "." = [] := by decide +kernel
  have relative : Path.isAbsolute "." = false := by decide +kernel
  rw [visited, still, FileTree.start, relative]
  rfl

/-- The paths to the default names in a directory can be asked for. -/
def Fits (dir : String) : Prop :=
  ∀ name ∈ defaultNames, FileTree.isPath (Path.join dir name) = true

theorem Fits.parent {dir parent : String} (fits : Fits dir)
    (above : Path.parent? dir = some parent) : Fits parent := by
  intro name default
  obtain ⟨rest, some, rfl⟩ := Path.parent_prefix above
  have free := (names_default name default).2
  obtain ⟨sep, either, joined⟩ := Path.join_text parent free
  obtain ⟨sep', -, joined'⟩ := Path.join_text (parent ++ rest) free
  have proper := fits name default
  rw [joined', FileTree.isPath, Bool.and_eq_true, decide_eq_true_iff, Bool.not_eq_true',
    Bool.eq_false_iff, ne_eq, List.contains_iff_mem] at proper
  rw [joined, FileTree.isPath, Bool.and_eq_true, decide_eq_true_iff, Bool.not_eq_true',
    Bool.eq_false_iff, ne_eq, List.contains_iff_mem]
  simp only [String.utf8ByteSize_append, String.toList_append, List.mem_append, not_or] at proper ⊢
  have more : 0 < rest.utf8ByteSize := by
    rw [Nat.pos_iff_ne_zero, ne_eq, String.utf8ByteSize_eq_zero_iff]
    exact some
  have one : sep.utf8ByteSize ≤ 1 ∧ '\x00' ∉ sep.toList := by
    rcases either with rfl | rfl <;> decide +kernel
  exact ⟨by omega, ⟨proper.2.1.1.1, one.2⟩, proper.2.2⟩

/-- Where the directories of the search are. -/
theorem findSome?_tried {t : FileTree} {cwd place : Place} {dir : String}
    (reaches : t.Reaches (FileTree.start cwd dir) (Path.steps dir) place) (fits : Fits dir) :
    (tried dir).findSome? (t.resolve? cwd) = t.nearest? (visited cwd dir) := by
  unfold visited
  induction dir using searched.induct generalizing place with
  | case1 dir ih =>
    have here := findSome?_join (Reaches.filter_iff.mp reaches) fits
    rw [FileTree.follow?_eq reaches.1] at here
    cases above : Path.parent? dir with
    | none =>
      rw [Path.steps_of_no_parent above] at here ⊢
      rw [tried, searched_of_no_parent above, List.flatMap_singleton, here]
      exact (t.nearest?_singleton _).symm
    | some parent =>
      have sameStart : FileTree.start cwd parent = FileTree.start cwd dir := by
        rw [FileTree.start, FileTree.start, Path.isAbsolute_parent above]
      have shorter := Path.steps_parent above
      have later {q : Place} (onward : t.Reaches (FileTree.start cwd dir) (Path.steps parent) q) :=
        ih parent above (sameStart ▸ onward) (fits.parent above)
      rw [tried, searched_of_parent above, List.flatMap_cons, List.findSome?_append, here, ← tried]
      rw [sameStart] at later
      rcases List.eq_nil_or_concat' (Path.steps dir) with none | ⟨front, last, split⟩
      · -- The parent of a dot is the empty path, which leads to the same place.
        rw [none, List.dropLast_nil] at shorter
        rw [none] at reaches ⊢
        rw [shorter] at later
        rw [later reaches, FileTree.upward_nil, List.map_singleton, FileTree.nearest?_singleton,
          Option.or_self]
      · rw [split, List.dropLast_concat] at shorter
        rw [split] at reaches ⊢
        rw [shorter] at later
        rw [later reaches.front, FileTree.upward_concat, List.map_cons, FileTree.nearest?_cons]

/-- What a search finds, and when that is what is nearest. The search answers with the first of its
paths that leads anywhere. These lead to the directories that are left as the last steps of the
start are taken away; without `..` they are those from the start upward to where its path begins,
the root or the current directory, and so the answer is right unless the nearest snapshot file is
above that. -/
theorem find_nearest_iff {w : World} {start : String} {place : Place}
    (reaches : w.files.Reaches (FileTree.start w.cwd start) (Path.parts start) place) :
    let nearest := w.files.nearest? (FileTree.upward place)
    let found := (tried start).findSome? (w.files.resolve? w.cwd)
    (Answers w start nearest ↔ found = nearest) ∧
    (Fits start → found = w.files.nearest? (visited w.cwd start)) ∧
    (Fits start → ".." ∉ Path.parts start →
      (Answers w start nearest ↔
        ∀ entry, nearest = some entry → FileTree.start w.cwd start <+: entry.dropLast)) := by
  intro nearest found
  have steps := Reaches.filter_iff.mpr reaches
  have looks : Fits start → found = w.files.nearest? (visited w.cwd start) := findSome?_tried steps
  refine ⟨answers_iff, looks, fun fits plain => ?_⟩
  obtain ⟨places, whole⟩ := visited_of_plain plain w.cwd
  have here : place = FileTree.start w.cwd start ++ Path.steps start :=
    (FileTree.follow?_eq steps.1).trans whole
  calc Answers w start nearest ↔ w.files.nearest? (visited w.cwd start) = nearest := by
        rw [← looks fits]
        exact answers_iff
    _ ↔ ∀ entry, nearest = some entry → FileTree.start w.cwd start <+: entry.dropLast := by
        simp only [nearest, places, here]
        exact FileTree.nearest?_below_iff

/-- A search from the root downward that finds the snapshot file two directories above its start. -/
theorem find_nearest_iff_of_nested :
    let w : World := { World.bare with files :=
      ⟨[(["a"], .directory), (["a", "b"], .directory), (["cluster.yaml"], .file .empty)]⟩ }
    w.files.Reaches (FileTree.start w.cwd "a/b") (Path.parts "a/b") ["a", "b"] ∧
    Fits "a/b" ∧ ".." ∉ Path.parts "a/b" ∧
    Answers w "a/b" (some ["cluster.yaml"]) := by
  intro w
  have reaches : w.files.Reaches (FileTree.start w.cwd "a/b") (Path.parts "a/b") ["a", "b"] :=
    ⟨by decide +kernel, by decide +kernel⟩
  have fits : Fits "a/b" := by
    unfold Fits
    decide +kernel
  have plain : ".." ∉ Path.parts "a/b" := by decide +kernel
  have nearest : w.files.nearest? (FileTree.upward ["a", "b"]) = some ["cluster.yaml"] := by
    decide +kernel
  have root : FileTree.start w.cwd "a/b" = [] := by decide +kernel
  have answers := (find_nearest_iff reaches).2.2 fits plain
  rw [nearest, root] at answers
  exact ⟨reaches, fits, plain, answers.mpr fun entry _ => List.nil_prefix⟩

/-- A search from the dot, as on the command line, that does not find the snapshot file in the
directory above. -/
theorem find_misses_parent :
    let w : World := { World.bare with
      files := ⟨[(["sub"], .directory), (["gridconf.yaml"], .file .empty)]⟩
      cwd := ["sub"] }
    w.files.Reaches (FileTree.start w.cwd ".") (Path.parts ".") ["sub"] ∧
    w.files.nearest? (FileTree.upward ["sub"]) = some ["gridconf.yaml"] ∧
    ((find ".").run.exec World.serve w).1 =
      .error (.config (.fileNotFound "./gridconf.yaml")) ∧
    ¬ Answers w "." (w.files.nearest? (FileTree.upward ["sub"])) := by
  intro w
  have reaches : w.files.Reaches (FileTree.start w.cwd ".") (Path.parts ".") ["sub"] :=
    ⟨by decide +kernel, by decide +kernel⟩
  have nearest : w.files.nearest? (FileTree.upward ["sub"]) = some ["gridconf.yaml"] := by
    decide +kernel
  have fits : Fits "." := by
    unfold Fits
    decide +kernel
  have nothing : w.files.nearest? (visited w.cwd ".") = none := by
    rw [visited_dot]
    decide +kernel
  have fails : Answers w "." none :=
    answers_iff.mpr ((findSome?_tried (Reaches.filter_iff.mpr reaches) fits).trans nothing)
  have joined : Path.join "." "gridconf.yaml" = "./gridconf.yaml" := by decide +kernel
  rw [Answers, joined] at fails
  refine ⟨reaches, nearest, fails, ?_⟩
  rw [nearest]
  rintro ⟨path, ends, -⟩
  cases fails.symm.trans ends

end SnapshotFile
end ClusterConf
