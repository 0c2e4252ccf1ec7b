import ClusterConf.Proofs.PathLaws
set_option autoImplicit false

/-!
Files by the places that paths name, also where the directories on the way are not there yet. Main
statements: operations on a path change what stands at its place and nowhere else, they keep every
entry in a directory, and the file beside a path that differs in the extension is another one.
-/
namespace ClusterConf

namespace FileTree

open ClusterConf.Path (Silent Names)

/-! ## Places -/

/-- Where the parts of a path lead if the directories on the way are there. -/
def walk : Place → List String → Place
  | place, [] => place
  | place, part :: rest =>
    if part.isEmpty || part == "." then walk place rest
    else if part == ".." then walk place.dropLast rest
    else walk (place ++ [part]) rest

/-- The place that a path names. -/
def placeOf (cwd : Place) (path : String) : Place := walk (start cwd path) (Path.parts path)

def content? (t : FileTree) (place : Place) : Option ByteArray :=
  match t.entry? place with
  | some (.file content) => some content
  | _ => none

theorem walk_append (place : Place) (front back : List String) :
    walk place (front ++ back) = walk (walk place front) back := by
  induction front generalizing place with
  | nil => rfl
  | cons part front ih =>
    rw [List.cons_append, walk, walk]
    split
    · exact ih place
    · split
      · exact ih place.dropLast
      · exact ih (place ++ [part])

theorem walk_silent {silent : List String} (all : ∀ part ∈ silent, Silent part) (place : Place) :
    walk place silent = place := by
  induction silent with
  | nil => rfl
  | cons part silent ih =>
    obtain ⟨first, rest⟩ := List.forall_mem_cons.mp all
    rw [walk, if_pos (by simpa [Silent] using first)]
    exact ih rest

theorem walk_names {part : String} (names : Names part) (place : Place) (rest : List String) :
    walk place (part :: rest) = walk (place ++ [part]) rest := by
  obtain ⟨some, notDot, notDots⟩ := names
  rw [walk, if_neg (by simp [some, notDot]), if_neg (by simpa using notDots)]

/-- A path and one with another extension name entries of one directory. -/
theorem placeOf_withExtension {p ext name : String} (free : '/' ∉ ext.toList)
    (long : 1 < ext.toList.length) (named : Path.fileName? p = some name) (cwd : Place) :
    ∃ directory, placeOf cwd p = directory ++ [name] ∧
      placeOf cwd (Path.withExtension p ext) =
        directory ++ [(Path.splitName name).1 ++ "." ++ ext] := by
  obtain ⟨names, before, silent, all, shape, extended⟩ := Path.parts_withExtension free named
  have length : 3 ≤ ((Path.splitName name).1 ++ "." ++ ext).toList.length := by
    simp only [String.toList_append, List.length_append, show ".".toList.length = 1 from rfl]
    omega
  have longer : Names ((Path.splitName name).1 ++ "." ++ ext) := by
    generalize (Path.splitName name).1 ++ "." ++ ext = full at length
    refine ⟨?_, ?_, ?_⟩
    · rw [Bool.eq_false_iff, ne_eq, String.isEmpty_iff]
      rintro rfl
      exact absurd length (by decide)
    · rintro rfl
      exact absurd length (by decide)
    · rintro rfl
      exact absurd length (by decide)
  have sameStart : start cwd (Path.withExtension p ext) = start cwd p := by
    rw [start, start, Path.isAbsolute_withExtension free]
  refine ⟨walk (start cwd p) (Path.rootParts p ++ before), ?_, ?_⟩
  · rw [placeOf, shape, ← List.append_assoc, walk_append, walk_names names, walk_silent all]
  · rw [placeOf, sameStart, extended, ← List.append_assoc, walk_append, walk_names longer, walk]

theorem follow?_eq {t : FileTree} {place q : Place} {parts : List String}
    (followed : t.follow? place parts = some q) : q = walk place parts := by
  induction parts generalizing place with
  | nil => exact (Option.some.inj followed).symm
  | cons part rest ih =>
    rw [follow?] at followed
    rw [walk]
    split at followed
    · cases followed
    · split
      · rename_i silent
        rw [if_pos silent] at followed
        exact ih followed
      · rename_i said
        rw [if_neg said] at followed
        split
        · rename_i dots
          rw [if_pos dots] at followed
          exact ih followed
        · rename_i notDots
          rw [if_neg notDots] at followed
          simp only at followed
          split at followed
          · exact ih followed
          · cases followed

theorem follow?_append {t : FileTree} {place : Place} {front back : List String} :
    t.follow? place (front ++ back) = (t.follow? place front).bind fun q => t.follow? q back := by
  induction front generalizing place with
  | nil => rfl
  | cons part front ih =>
    rw [List.cons_append, follow?, follow?]
    split
    · rfl
    · split
      · exact ih
      · split
        · exact ih
        · simp only
          split
          · exact ih
          · rfl

theorem resolve?_eq {t : FileTree} {cwd q : Place} {path : String}
    (resolved : t.resolve? cwd path = some q) : q = placeOf cwd path := by
  rw [resolve?] at resolved
  split at resolved
  · cases resolved
  · exact follow?_eq resolved

/-- Where a path could be made: an entry with a name in a directory that is there. -/
theorem resolveNew?_cases {t : FileTree} {cwd q : Place} {path : String}
    (resolved : t.resolveNew? cwd path = some q) :
    t.resolve? cwd path = some q ∨
      ∃ before last place, Path.parts path = before ++ [last] ∧ Names last ∧
        t.follow? (start cwd path) before = some place ∧ t.isDirectory place = true ∧
        isPath path = true ∧ q = place ++ [last] := by
  rw [resolveNew?] at resolved
  split at resolved
  · rename_i place found
    rw [Option.some.inj resolved] at found
    exact .inl found
  · split at resolved
    · cases resolved
    · rename_i proper
      split at resolved
      · rename_i last before shape
        split at resolved
        · cases resolved
        · rename_i fits
          split at resolved
          · rename_i place followed
            split at resolved
            · rename_i directory
              refine .inr ⟨before.reverse, last, place, ?_, ?_, followed, directory, ?_,
                (Option.some.inj resolved).symm⟩
              · rw [← List.reverse_reverse (Path.parts path), shape, List.reverse_cons]
              · simp only [Bool.or_eq_true, beq_iff_eq, not_or] at fits
                exact ⟨Bool.eq_false_iff.mpr fits.1.1.1, fits.1.1.2, fits.1.2⟩
              · simpa using proper
            · cases resolved
          · cases resolved
      · cases resolved

theorem resolveNew?_eq {t : FileTree} {cwd q : Place} {path : String}
    (resolved : t.resolveNew? cwd path = some q) : q = placeOf cwd path := by
  rcases resolveNew?_cases resolved with
    found | ⟨before, last, place, shape, names, followed, -, -, rfl⟩
  · exact resolve?_eq found
  · rw [placeOf, shape, walk_append, walk_names names, walk, ← follow?_eq followed]

/-! ## Entries -/

@[simp] theorem entry?_root (t : FileTree) : t.entry? [] = some .directory := rfl

theorem entry?_below {q : Place} (below : q ≠ []) (t : FileTree) :
    t.entry? q = (t.entries.find? (·.1 == q)).map (·.2) := by
  rw [FileTree.entry?, if_neg (by simpa using below)]

theorem entry?_erase {place q : Place} (other : q ≠ place) (t : FileTree) :
    FileTree.entry? (t.erase place) q = t.entry? q := by
  by_cases root : q = []
  · rw [root]
    rfl
  · rw [entry?_below root, entry?_below root, erase, List.find?_filter]
    refine congrArg (fun wanted => (t.entries.find? wanted).map (·.2)) (funext fun x => ?_)
    by_cases same : x.1 = q <;> simp [same, other]

theorem entry?_erase_self {place : Place} (below : place ≠ []) (t : FileTree) :
    FileTree.entry? (t.erase place) place = none := by
  rw [entry?_below below, erase, List.find?_filter, Option.map_eq_none_iff, List.find?_eq_none]
  intro x _
  simp

theorem entry?_put_self {place : Place} (below : place ≠ []) (t : FileTree) (e : FileEntry) :
    FileTree.entry? (t.put place e) place = some e := by
  rw [entry?_below below, put, List.find?_cons_of_pos (by simp)]
  rfl

theorem entry?_put {place q : Place} (other : q ≠ place) (t : FileTree) (e : FileEntry) :
    FileTree.entry? (t.put place e) q = t.entry? q := by
  rw [← entry?_erase other t]
  by_cases root : q = []
  · rw [root]
    rfl
  · rw [entry?_below root, entry?_below root, put,
      List.find?_cons_of_neg (by simpa using other.symm)]

theorem isDirectory_iff {t : FileTree} {place : Place} :
    t.isDirectory place = true ↔ t.entry? place = some .directory := by
  rw [isDirectory]
  split <;> simp_all

theorem content?_eq_some_iff {t : FileTree} {place : Place} {content : ByteArray} :
    t.content? place = some content ↔ t.entry? place = some (.file content) := by
  rw [content?]
  split <;> simp_all

theorem content?_put {place q : Place} (other : q ≠ place) (t : FileTree) (e : FileEntry) :
    (t.put place e).content? q = t.content? q := by
  rw [content?, entry?_put other]
  rfl

theorem not_root_of_not_directory {t : FileTree} {place : Place}
    (file : t.isDirectory place = false) : place ≠ [] := by
  rintro rfl
  cases file

/-- Taking out a file leaves every directory where it is. -/
theorem isDirectory_erase_file {t : FileTree} {place q : Place}
    (file : t.isDirectory place = false) (directory : t.isDirectory q = true) :
    FileTree.isDirectory (t.erase place) q = true := by
  have other : q ≠ place := by
    rintro rfl
    rw [file] at directory
    cases directory
  rw [isDirectory_iff, entry?_erase other]
  exact isDirectory_iff.mp directory

/-! ## Trees in which every entry is in a directory -/

/-- Every entry is in a directory. -/
def Sound (t : FileTree) : Prop :=
  ∀ place, (t.entry? place).isSome → t.isDirectory place.dropLast = true

namespace Sound

variable {t : FileTree}

/-- Something is put into a directory; a directory is replaced only by another. -/
theorem put (sound : t.Sound) {place : Place} (below : place ≠ [])
    (parent : t.isDirectory place.dropLast = true) {e : FileEntry}
    (keeps : t.isDirectory place = true → e = .directory) : (t.put place e).Sound := by
  have still : ∀ {q}, t.isDirectory q = true → (t.put place e).isDirectory q = true := by
    intro q directory
    rw [isDirectory_iff] at directory ⊢
    by_cases same : q = place
    · rw [same] at directory ⊢
      rw [entry?_put_self below, keeps (isDirectory_iff.mpr directory)]
    · rw [entry?_put same, directory]
  intro q there
  by_cases same : q = place
  · rw [same]
    exact still parent
  · rw [entry?_put same] at there
    exact still (sound q there)

theorem erase (sound : t.Sound) {place : Place} (file : t.isDirectory place = false) :
    (t.erase place).Sound := by
  have below := not_root_of_not_directory file
  intro q there
  by_cases same : q = place
  · rw [same, entry?_erase_self below] at there
    cases there
  · rw [entry?_erase same] at there
    exact isDirectory_erase_file file (sound q there)

theorem follow?_isSome (sound : t.Sound) {place q : Place} {parts : List String}
    (there : (t.entry? place).isSome) (followed : t.follow? place parts = some q) :
    (t.entry? q).isSome := by
  induction parts generalizing place with
  | nil =>
    obtain rfl := Option.some.inj followed
    exact there
  | cons part rest ih =>
    rw [follow?] at followed
    split at followed
    · cases followed
    · split at followed
      · exact ih there followed
      · split at followed
        · have parent := isDirectory_iff.mp (sound place there)
          exact ih (by rw [parent]; rfl) followed
        · simp only at followed
          split at followed
          · rename_i next
            exact ih next followed
          · cases followed

/-- A path that does not end in a name leads to a directory. -/
theorem directory_of_follow (sound : t.Sound) {place q : Place} {before silent : List String}
    {part : String} (ends : Silent part ∨ part = "..") (all : ∀ part ∈ silent, Silent part)
    (followed : t.follow? place (before ++ part :: silent) = some q) : t.isDirectory q = true := by
  rw [follow?_append] at followed
  obtain ⟨between, -, last⟩ := Option.bind_eq_some_iff.mp followed
  have directory : t.isDirectory between = true := by
    rw [follow?] at last
    split at last
    · cases last
    · rename_i directory
      simpa using directory
  have there : (t.entry? between).isSome := by
    rw [isDirectory_iff.mp directory]
    rfl
  rw [follow?_eq last]
  rcases ends with silent | rfl
  · rw [walk_silent (List.forall_mem_cons.mpr ⟨silent, all⟩)]
    exact directory
  · rw [walk, if_neg (by decide), if_pos (by decide), walk_silent all]
    exact sound between there

theorem resolve?_isSome (sound : t.Sound) {cwd q : Place} {path : String}
    (resolved : t.resolve? cwd path = some q) : (t.entry? q).isSome := by
  rw [resolve?] at resolved
  split at resolved
  · cases resolved
  · cases shape : Path.parts path with
    | nil => exact absurd shape (Path.parts_ne_nil path)
    | cons part rest =>
      rw [shape] at resolved
      refine sound.follow?_isSome ?_ resolved
      rw [follow?] at resolved
      split at resolved
      · cases resolved
      · rename_i directory
        rw [isDirectory_iff.mp (by simpa using directory)]
        rfl

/-- What a path leads to, or could be made by it, is in a directory. -/
theorem parent_of_resolveNew? (sound : t.Sound) {cwd q : Place} {path : String}
    (resolved : t.resolveNew? cwd path = some q) : t.isDirectory q.dropLast = true := by
  rcases resolveNew?_cases resolved with found | ⟨before, last, place, -, -, -, directory, -, rfl⟩
  · exact sound q (sound.resolve?_isSome found)
  · rw [List.dropLast_concat]
    exact directory

theorem directory_of_unnamed (sound : t.Sound) {cwd q : Place} {path : String}
    (unnamed : Path.fileName? path = none) (resolved : t.resolveNew? cwd path = some q) :
    t.isDirectory q = true := by
  obtain ⟨before, part, silent, shape, ends, all⟩ := Path.parts_of_unnamed unnamed
  rcases resolveNew?_cases resolved with found | ⟨before', last, place, shape', names, -⟩
  · rw [resolve?] at found
    split at found
    · cases found
    · rw [shape] at found
      exact sound.directory_of_follow ends all found
  · -- Here the last part would be a name.
    have final : last ∈ part :: silent := by
      have same := congrArg List.getLast? (shape.symm.trans shape')
      rw [List.getLast?_append_of_ne_nil _ (List.cons_ne_nil _ _), List.getLast?_concat] at same
      exact List.mem_of_getLast? same
    obtain ⟨some, notDot, notDots⟩ := names
    have said : ¬ Silent last := by
      rintro (empty | dot)
      · rw [empty] at some
        cases some
      · exact notDot dot
    rcases List.mem_cons.mp final with rfl | later
    · rcases ends with silent | dots
      · exact absurd silent said
      · exact absurd dots notDots
    · exact absurd (all last later) said

end Sound

/-! ## Files that are not one -/

/-- A path never leads to the file that the first path names. -/
def Apart (path other : String) : Prop :=
  ∀ ⦃t : FileTree⦄, t.Sound → ∀ ⦃cwd q : Place⦄, t.resolveNew? cwd other = some q →
    t.isDirectory q = false → q ≠ placeOf cwd path

namespace Apart

theorem of_unnamed {other : String} (unnamed : Path.fileName? other = none) (path : String) :
    Apart path other := by
  intro t sound cwd q resolved file
  rw [sound.directory_of_unnamed unnamed resolved] at file
  cases file

theorem of_places {path other : String} (places : ∀ cwd, placeOf cwd other ≠ placeOf cwd path) :
    Apart path other := by
  intro t sound cwd q resolved file
  rw [resolveNew?_eq resolved]
  exact places cwd

section Extensions

variable {path ext : String} (free : '/' ∉ ext.toList) (long : 1 < ext.toList.length)

include free long

/-- The path with another extension leads to another file, unless the path has that extension. -/
theorem beside (other : Path.extension? path ≠ some ext) :
    Apart path (Path.withExtension path ext) ∧ Apart (Path.withExtension path ext) path := by
  cases named : Path.fileName? path with
  | none =>
    rw [Path.withExtension_of_unnamed named]
    exact ⟨of_unnamed named path, of_unnamed named path⟩
  | some name =>
    rw [Path.extension?, named] at other
    have differ : ∀ cwd, placeOf cwd (Path.withExtension path ext) ≠ placeOf cwd path := by
      intro cwd
      obtain ⟨directory, own, beside⟩ := placeOf_withExtension free long named cwd
      rw [own, beside]
      intro same
      exact Path.splitName_ne other (List.cons.inj (List.append_cancel_left same)).1
    exact ⟨of_places differ, of_places fun cwd => (differ cwd).symm⟩

/-- Two extensions lead to two files. -/
theorem extensions {ext' : String} (free' : '/' ∉ ext'.toList) (long' : 1 < ext'.toList.length)
    (other : ext' ≠ ext) : Apart (Path.withExtension path ext) (Path.withExtension path ext') := by
  cases named : Path.fileName? path with
  | none =>
    rw [Path.withExtension_of_unnamed named, Path.withExtension_of_unnamed named]
    exact of_unnamed named path
  | some name =>
    refine of_places fun cwd same => other ?_
    obtain ⟨directory, own, first⟩ := placeOf_withExtension free long named cwd
    obtain ⟨directory', own', second⟩ := placeOf_withExtension free' long' named cwd
    obtain rfl := List.append_cancel_right (own'.symm.trans own)
    have names := (List.cons.inj (List.append_cancel_left (second.symm.trans (same.trans first)))).1
    simp only [← String.toList_inj, String.toList_append] at names
    exact String.toList_inj.mp (List.append_cancel_left names)

end Extensions

end Apart

/-! ## Operations -/

theorem createFile?_cases {t t' : FileTree} {cwd : Place} {path : String}
    (made : t.createFile? cwd path = some t') :
    ∃ q, t.resolveNew? cwd path = some q ∧ t.isDirectory q = false ∧
      t' = t.put q (.file ByteArray.empty) := by
  obtain ⟨q, resolved, put⟩ := Option.bind_eq_some_iff.mp made
  split at put
  · cases put
  · rename_i file
    refine ⟨q, resolved, ?_, (Option.some.inj put).symm⟩
    rw [Bool.eq_false_iff, ne_eq, isDirectory_iff]
    exact file

theorem append?_cases {t t' : FileTree} {cwd : Place} {path : String} {content : ByteArray}
    (appended : t.append? cwd path content = some t') :
    ∃ q before, t.resolve? cwd path = some q ∧ t.content? q = some before ∧
      t' = t.put q (.file (before ++ content)) := by
  obtain ⟨q, resolved, put⟩ := Option.bind_eq_some_iff.mp appended
  split at put
  · rename_i before file
    exact ⟨q, before, resolved, content?_eq_some_iff.mpr file, (Option.some.inj put).symm⟩
  · cases put

theorem rename?_cases {t t' : FileTree} {cwd : Place} {source target : String}
    (moved : t.rename? cwd source target = some t') :
    ∃ a b content, t.resolve? cwd source = some a ∧ t.content? a = some content ∧
      t.resolveNew? cwd target = some b ∧ t.isDirectory b = false ∧
      t' = (t.erase a).put b (.file content) := by
  obtain ⟨a, left, rest⟩ := Option.bind_eq_some_iff.mp moved
  obtain ⟨b, reached, put⟩ := Option.bind_eq_some_iff.mp rest
  split at put
  · cases put
  · rename_i content there file
    refine ⟨a, b, content, left, content?_eq_some_iff.mpr there, reached, ?_,
      (Option.some.inj put).symm⟩
    rw [Bool.eq_false_iff, ne_eq, isDirectory_iff]
    exact file
  · cases put

theorem remove?_cases {t t' : FileTree} {cwd : Place} {path : String}
    (removed : t.remove? cwd path = some t') :
    ∃ q content, t.resolve? cwd path = some q ∧ t.content? q = some content ∧ t' = t.erase q := by
  obtain ⟨q, resolved, erased⟩ := Option.bind_eq_some_iff.mp removed
  split at erased
  · rename_i content there
    exact ⟨q, content, resolved, content?_eq_some_iff.mpr there, (Option.some.inj erased).symm⟩
  · cases erased

theorem not_directory_of_content {t : FileTree} {q : Place} {content : ByteArray}
    (there : t.content? q = some content) : t.isDirectory q = false := by
  rw [Bool.eq_false_iff, ne_eq, isDirectory_iff, content?_eq_some_iff.mp there]
  exact fun impossible => by cases impossible

theorem isDirectory_put_file {t : FileTree} {q : Place} (file : t.isDirectory q = false)
    (content : ByteArray) {place : Place} (directory : t.isDirectory place = true) :
    (t.put q (.file content)).isDirectory place = true := by
  have different : place ≠ q := by
    rintro rfl
    rw [file] at directory
    cases directory
  rw [isDirectory_iff, entry?_put different]
  exact isDirectory_iff.mp directory

theorem content?_written {t made written : FileTree} {cwd : Place} {path : String}
    {content : ByteArray} (created : t.createFile? cwd path = some made)
    (appended : made.append? cwd path content = some written) :
    written.content? (placeOf cwd path) = some content := by
  obtain ⟨q, resolved, file, rfl⟩ := createFile?_cases created
  obtain ⟨q', before, found, there, rfl⟩ := append?_cases appended
  have below := not_root_of_not_directory file
  obtain rfl := resolveNew?_eq resolved
  obtain rfl := resolve?_eq found
  rw [content?_eq_some_iff, entry?_put_self below] at there
  obtain rfl := FileEntry.file.inj (Option.some.inj there)
  rw [content?_eq_some_iff, entry?_put_self below, ByteArray.empty_append]

theorem resolveNew?_of_resolve? {t : FileTree} {cwd q : Place} {path : String}
    (resolved : t.resolve? cwd path = some q) : t.resolveNew? cwd path = some q := by
  rw [resolveNew?, resolved]

/-- A path leads where it led if no directory has gone and what it leads to is there. -/
theorem follow?_mono {t t' : FileTree}
    (directories : ∀ q, t.isDirectory q = true → t'.isDirectory q = true) {place q : Place}
    {parts : List String} (followed : t.follow? place parts = some q)
    (there : (t'.entry? q).isSome) : t'.follow? place parts = some q := by
  induction parts generalizing place with
  | nil => exact followed
  | cons part rest ih =>
    rw [follow?] at followed ⊢
    split at followed
    · cases followed
    · rename_i directory
      have still := directories place (by simpa using directory)
      rw [if_neg (by simpa using still)]
      split
      · rename_i silent
        rw [if_pos silent] at followed
        exact ih followed
      · rename_i said
        rw [if_neg said] at followed
        split
        · rename_i dots
          rw [if_pos dots] at followed
          exact ih followed
        · rename_i notDots
          rw [if_neg notDots] at followed
          simp only at followed ⊢
          split at followed
          · have next : (t'.entry? (place ++ [part])).isSome := by
              cases rest with
              | nil =>
                obtain rfl := Option.some.inj followed
                exact there
              | cons later rest =>
                have passes := followed
                rw [follow?] at passes
                split at passes
                · cases passes
                · rename_i between
                  have stays := directories _ (by simpa using between)
                  rw [isDirectory_iff.mp stays]
                  rfl
            rw [if_pos next]
            exact ih followed
          · cases followed

theorem follow?_names {t : FileTree} {place : Place} {last : String} (names : Names last)
    (directory : t.isDirectory place = true) (there : (t.entry? (place ++ [last])).isSome) :
    t.follow? place [last] = some (place ++ [last]) := by
  obtain ⟨some, notDot, notDots⟩ := names
  rw [follow?, if_neg (by simpa using directory), if_neg (by simp [some, notDot]),
    if_neg (by simpa using notDots)]
  simp only
  rw [if_pos there, follow?]

/-- A path leads to where a file was put by it. -/
theorem resolve?_of_resolveNew? {t t' : FileTree} {cwd q : Place} {path : String}
    (directories : ∀ q, t.isDirectory q = true → t'.isDirectory q = true)
    (resolved : t.resolveNew? cwd path = some q) (there : (t'.entry? q).isSome) :
    t'.resolve? cwd path = some q := by
  rcases resolveNew?_cases resolved with
    found | ⟨before, last, place, shape, names, followed, directory, proper, rfl⟩
  · rw [resolve?] at found ⊢
    split at found
    · cases found
    · rename_i proper
      rw [if_neg proper]
      exact follow?_mono directories found there
  · have some : path.isEmpty = false := by
      rw [Bool.eq_false_iff, ne_eq, String.isEmpty_iff]
      rintro rfl
      have only : Path.parts "" = [""] := rfl
      rw [only] at shape
      cases before with
      | nil =>
        obtain rfl := (List.cons.inj shape).1
        cases names.1
      | cons first before => cases before <;> cases (List.cons.inj shape).2
    have still := directories place directory
    have onward := follow?_mono directories followed (by rw [isDirectory_iff.mp still]; rfl)
    rw [resolve?, if_neg (by simp [some, proper]), shape, follow?_append, onward]
    exact follow?_names names still there

theorem read?_of_content? {t : FileTree} {cwd q : Place} {path : String} {content : ByteArray}
    (resolved : t.resolve? cwd path = some q) (there : t.content? q = some content) :
    t.read? cwd path = some content := by
  rw [read?, resolved]
  exact there

theorem read?_written {t made written : FileTree} {cwd : Place} {path : String}
    {content : ByteArray} (created : t.createFile? cwd path = some made)
    (appended : made.append? cwd path content = some written) :
    written.read? cwd path = some content := by
  have held := content?_written created appended
  obtain ⟨q, before, resolved, there, rfl⟩ := append?_cases appended
  obtain rfl := resolve?_eq resolved
  have found := resolve?_of_resolveNew?
    (fun _ => isDirectory_put_file (not_directory_of_content there) (before ++ content))
    (resolveNew?_of_resolve? resolved) (by rw [content?_eq_some_iff.mp held]; rfl)
  exact read?_of_content? found held

theorem pathExists_of_read? {t : FileTree} {cwd : Place} {path : String}
    {content : ByteArray} (read : t.read? cwd path = some content) :
    t.pathExists cwd path = true := by
  obtain ⟨place, resolved, -⟩ := Option.bind_eq_some_iff.mp read
  rw [pathExists, resolved, Option.isSome_some]

/-- From one tree to another no directory has gone, and the file at a place is the same. -/
structure Keeps (place : Place) (t t' : FileTree) : Prop where
  sound : t'.Sound
  directories : ∀ q, t.isDirectory q = true → t'.isDirectory q = true
  content : t'.content? place = t.content? place

namespace Keeps

variable {place : Place} {t t' t'' : FileTree}

theorem refl (sound : t.Sound) (place : Place) : Keeps place t t := ⟨sound, fun _ same => same, rfl⟩

theorem trans (first : Keeps place t t') (second : Keeps place t' t'') : Keeps place t t'' where
  sound := second.sound
  directories := fun q directory => second.directories q (first.directories q directory)
  content := second.content.trans first.content

/-- A file is made or changed somewhere else. -/
theorem put (sound : t.Sound) {q : Place} (other : q ≠ place)
    (parent : t.isDirectory q.dropLast = true) (file : t.isDirectory q = false)
    (content : ByteArray) : Keeps place t (t.put q (.file content)) where
  sound := by
    refine sound.put (not_root_of_not_directory file) parent fun directory => ?_
    rw [file] at directory
    cases directory
  directories := fun _ directory => isDirectory_put_file file content directory
  content := content?_put other.symm t _

theorem read? {cwd : Place} {path : String} (keeps : Keeps (placeOf cwd path) t t')
    {content : ByteArray} (read : t.read? cwd path = some content) :
    t'.read? cwd path = some content := by
  obtain ⟨q, resolved, file⟩ := Option.bind_eq_some_iff.mp read
  obtain rfl := resolve?_eq resolved
  have old : t.content? (placeOf cwd path) = some content := file
  have new := keeps.content.trans old
  have there := content?_eq_some_iff.mp new
  have found : t'.resolve? cwd path = some (placeOf cwd path) :=
    resolve?_of_resolveNew? keeps.directories (resolveNew?_of_resolve? resolved)
      (by rw [there]; rfl)
  exact read?_of_content? found new

end Keeps

section Moving

variable {t t' : FileTree} (sound : t.Sound) {cwd : Place} {source target : String}
  (moved : t.rename? cwd source target = some t')

include sound moved

/-- A file that is moved leaves every directory where it is. -/
theorem rename?_directories :
    t'.Sound ∧ ∀ q, t.isDirectory q = true → t'.isDirectory q = true := by
  obtain ⟨a, b, content, left, there, reached, file, rfl⟩ := rename?_cases moved
  have fileBefore := not_directory_of_content there
  have stays : ∀ q, t.isDirectory q = true → (t.erase a).isDirectory q = true :=
    fun _ => isDirectory_erase_file fileBefore
  have fileErased : (t.erase a).isDirectory b = false := by
    rw [Bool.eq_false_iff, ne_eq, isDirectory_iff]
    by_cases same : b = a
    · rw [same, entry?_erase_self (not_root_of_not_directory fileBefore)]
      exact fun impossible => by cases impossible
    · rw [entry?_erase same, ← isDirectory_iff, file]
      exact Bool.false_ne_true
  have parent := stays _ (sound.parent_of_resolveNew? reached)
  have notReplaced : ∀ q, (t.erase a).isDirectory q = true → q ≠ b := by
    rintro q directory rfl
    rw [fileErased] at directory
    cases directory
  refine ⟨(sound.erase fileBefore).put (not_root_of_not_directory file) parent ?_, ?_⟩
  · exact fun directory => absurd rfl (notReplaced b directory)
  · intro q directory
    rw [isDirectory_iff, entry?_put (notReplaced q (stays q directory))]
    exact isDirectory_iff.mp (stays q directory)

theorem rename?_reads :
    t'.Sound ∧ ∃ content, t.content? (placeOf cwd source) = some content ∧
      t'.content? (placeOf cwd target) = some content ∧ t'.read? cwd target = some content := by
  obtain ⟨put, kept⟩ := rename?_directories sound moved
  obtain ⟨a, b, content, left, there, reached, file, rfl⟩ := rename?_cases moved
  have new : FileTree.entry? ((t.erase a).put b (.file content)) b = some (.file content) :=
    entry?_put_self (not_root_of_not_directory file) _ _
  have found := resolve?_of_resolveNew? kept reached (by rw [new]; rfl)
  obtain rfl := resolve?_eq left
  obtain rfl := resolve?_eq found
  have held := content?_eq_some_iff.mpr new
  exact ⟨put, content, there, held, read?_of_content? found held⟩

/-- A file that is moved leaves the file alone that another path names. -/
theorem keeps_rename? {path : String} (leaves : Apart path source) (reaches : Apart path target) :
    Keeps (placeOf cwd path) t t' := by
  obtain ⟨put, kept⟩ := rename?_directories sound moved
  obtain ⟨a, b, content, left, there, reached, file, rfl⟩ := rename?_cases moved
  have notMoved : a ≠ placeOf cwd path :=
    leaves sound (resolveNew?_of_resolve? left) (not_directory_of_content there)
  have notReplaced : b ≠ placeOf cwd path := reaches sound reached file
  refine ⟨put, kept, ?_⟩
  rw [content?_put notReplaced.symm, content?, entry?_erase notMoved.symm]
  rfl

end Moving

/-- Where a file is removed nothing is left. -/
theorem remove?_gone {t t' : FileTree} {cwd : Place} {path : String}
    (removed : t.remove? cwd path = some t') : t'.entry? (placeOf cwd path) = none := by
  obtain ⟨q, content, resolved, there, rfl⟩ := remove?_cases removed
  rw [← resolve?_eq resolved]
  exact entry?_erase_self (not_root_of_not_directory (not_directory_of_content there)) t

/-- A path does not lead to a place where nothing is. -/
theorem Sound.not_pathExists {t : FileTree} (sound : t.Sound) {cwd : Place} {path : String}
    (gone : t.entry? (placeOf cwd path) = none) : t.pathExists cwd path = false := by
  rw [pathExists, Option.isSome_eq_false_iff, Option.isNone_iff_eq_none,
    Option.eq_none_iff_forall_ne_some]
  intro q resolved
  have there := sound.resolve?_isSome resolved
  rw [resolve?_eq resolved, gone] at there
  cases there

theorem exists_remove?_of_read? {t : FileTree} {cwd : Place} {path : String} {content : ByteArray}
    (read : t.read? cwd path = some content) : ∃ t', t.remove? cwd path = some t' := by
  obtain ⟨q, resolved, file⟩ := Option.bind_eq_some_iff.mp read
  have there := content?_eq_some_iff.mp file
  refine ⟨t.erase q, ?_⟩
  rw [remove?, resolved]
  simp [there]

section Erasing

variable {t : FileTree} (sound : t.Sound) {q : Place} (file : t.isDirectory q = false)
  {cwd : Place} {path : String} (other : t.resolve? cwd path ≠ some q)

include file

theorem entry?_of_erase {p : Place} {e : FileEntry}
    (there : FileTree.entry? (t.erase q) p = some e) : t.entry? p = some e := by
  by_cases same : p = q
  · rw [same, entry?_erase_self (not_root_of_not_directory file)] at there
    cases there
  · rwa [entry?_erase same] at there

include sound other

/-- Where a file is taken out, all paths lead where they led that did not lead to it. -/
theorem resolve?_erase : FileTree.resolve? (t.erase q) cwd path = t.resolve? cwd path := by
  refine Option.ext fun r => ⟨fun resolved => ?_, fun resolved => ?_⟩
  · obtain ⟨e, there⟩ :=
      Option.isSome_iff_exists.mp ((sound.erase file).resolve?_isSome resolved)
    refine resolve?_of_resolveNew? (fun p directory => ?_) (resolveNew?_of_resolve? resolved) ?_
    · exact isDirectory_iff.mpr (entry?_of_erase file (isDirectory_iff.mp directory))
    · rw [entry?_of_erase file there, Option.isSome_some]
  · have elsewhere : r ≠ q := by
      rintro rfl
      exact other resolved
    refine resolve?_of_resolveNew? (fun p => isDirectory_erase_file file)
      (resolveNew?_of_resolve? resolved) ?_
    rw [entry?_erase elsewhere]
    exact sound.resolve?_isSome resolved

theorem read?_erase : FileTree.read? (t.erase q) cwd path = t.read? cwd path := by
  rw [read?, read?, resolve?_erase sound file other]
  refine Option.bind_congr fun r resolved => ?_
  have elsewhere : r ≠ q := by
    rintro rfl
    exact other resolved
  rw [entry?_erase elsewhere]

end Erasing

/-- A file that is removed leaves the file alone that another path names. -/
theorem keeps_remove? {t t' : FileTree} (sound : t.Sound) {cwd : Place} {path other : String}
    (apart : Apart path other) (removed : t.remove? cwd other = some t') :
    Keeps (placeOf cwd path) t t' := by
  obtain ⟨q, content, resolved, there, rfl⟩ := remove?_cases removed
  have file := not_directory_of_content there
  have elsewhere : q ≠ placeOf cwd path := apart sound (resolveNew?_of_resolve? resolved) file
  refine ⟨sound.erase file, fun _ => isDirectory_erase_file file, ?_⟩
  rw [content?, entry?_erase elsewhere.symm]
  rfl

/-- Making directories changes no file. -/
theorem keeps_makeWay {t : FileTree} (sound : t.Sound) (place : Place) (parts : List String)
    (q : Place) : Keeps q t (t.makeWay place parts).2 := by
  induction parts generalizing t place with
  | nil => exact .refl sound q
  | cons part rest ih =>
    rw [makeWay]
    split
    · exact .refl sound q
    · rename_i directory
      have parent : t.isDirectory place = true := by simpa using directory
      split
      · exact ih sound place
      · split
        · exact ih sound place.dropLast
        · simp only
          split
          · exact ih sound (place ++ [part])
          · rename_i absent
            have none : t.entry? (place ++ [part]) = none := by simpa using absent
            split
            · have made : Keeps q t (t.put (place ++ [part]) .directory) := by
                refine ⟨?_, fun p directory => ?_, ?_⟩
                · refine sound.put (by simp) ?_ fun _ => rfl
                  rw [List.dropLast_concat]
                  exact parent
                · have different : p ≠ place ++ [part] := by
                    rintro rfl
                    rw [isDirectory_iff, none] at directory
                    cases directory
                  rw [isDirectory_iff, entry?_put different]
                  exact isDirectory_iff.mp directory
                · by_cases same : q = place ++ [part]
                  · rw [same, content?, content?, entry?_put_self (by simp), none]
                  · exact content?_put same t _
              exact made.trans (ih made.sound (place ++ [part]))
            · exact .refl sound q

theorem keeps_createDirectories {t : FileTree} (sound : t.Sound) (cwd : Place) (path : String)
    (q : Place) : Keeps q t (t.createDirectories cwd path).2 := by
  rw [createDirectories]
  split
  · exact .refl sound q
  · split
    · exact .refl sound q
    · exact keeps_makeWay sound _ _ q

end FileTree

end ClusterConf
