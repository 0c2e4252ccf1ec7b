import ClusterConf.Proofs.Acceptance
import Mathlib.Data.List.TakeWhile
set_option autoImplicit false

/-!
Names in the values of attributes. Main statement: values that list names are read as these names,
however the names are separated, padded and spread over the values, and whether a value gives them
plainly or for one host.
-/
namespace ClusterConf

namespace Text

def Separators (cs : List Char) : Prop := ∀ c ∈ cs, isSeparator c = true

def Blanks (cs : List Char) : Prop := ∀ c ∈ cs, isBlank c = true

theorem Blanks.separators {cs : List Char} (blanks : Blanks cs) : Separators cs := by
  intro c member
  rw [isSeparator, blanks c member, Bool.or_true]

theorem words_append_cons {c : Char} (separates : isSeparator c = true) (front back : List Char) :
    words (front ++ c :: back) = words front ++ words back := by
  rw [words_eq, words_eq, words_eq, List.splitOnP_append_cons _ _ separates, List.filter_append]

theorem words_nil : words [] = [] := rfl

theorem words_separators_append {gap : List Char} (separators : Separators gap)
    (cs : List Char) : words (gap ++ cs) = words cs := by
  induction gap with
  | nil => rfl
  | cons c gap ih =>
    obtain ⟨first, rest⟩ := List.forall_mem_cons.mp separators
    rw [List.cons_append, ← ih rest]
    exact words_append_cons first [] (gap ++ cs)

theorem words_append_separators {gap : List Char} (separators : Separators gap)
    (cs : List Char) : words (cs ++ gap) = words cs := by
  cases gap with
  | nil => rw [List.append_nil]
  | cons c gap =>
    obtain ⟨first, rest⟩ := List.forall_mem_cons.mp separators
    have none : words gap = [] := by
      rw [← List.append_nil gap, words_separators_append rest, words_nil]
    rw [words_append_cons first, none, List.append_nil]

theorem words_letters {w : List Char} (filled : w ≠ []) (letters : ∀ c ∈ w, isSeparator c = false) :
    words w = [w] := by
  have whole : w.splitOnP isSeparator = [w] :=
    List.splitOnP_eq_singleton fun c member => by simpa using letters c member
  rw [words_eq, whole]
  simp [filled]

/-- A text is what trimming leaves, with blanks around it. -/
theorem exists_trim (cs : List Char) :
    ∃ front back, Blanks front ∧ Blanks back ∧ cs = front ++ trim cs ++ back := by
  have blanks : ∀ ds : List Char, Blanks (ds.takeWhile isBlank) := fun ds c member =>
    List.mem_takeWhile_imp member
  refine ⟨cs.takeWhile isBlank, ((cs.dropWhile isBlank).reverse.takeWhile isBlank).reverse,
    blanks cs, fun c member => blanks _ c (List.mem_reverse.mp member), ?_⟩
  have inner : trim cs ++ ((cs.dropWhile isBlank).reverse.takeWhile isBlank).reverse =
      cs.dropWhile isBlank := by
    rw [trim, ← List.reverse_append, List.takeWhile_append_dropWhile, List.reverse_reverse]
  rw [List.append_assoc, inner, List.takeWhile_append_dropWhile]

theorem words_trim (cs : List Char) : words (trim cs) = words cs := by
  obtain ⟨front, back, blanksFront, blanksBack, split⟩ := exists_trim cs
  calc words (trim cs)
      = words (front ++ (trim cs ++ back)) := by
        rw [words_separators_append blanksFront.separators,
          words_append_separators blanksBack.separators]
    _ = words cs := by rw [← List.append_assoc, ← split]

theorem trim_subset (cs : List Char) : trim cs ⊆ cs := by
  obtain ⟨front, back, -, -, split⟩ := exists_trim cs
  intro c member
  rw [split]
  exact List.mem_append_left back (List.mem_append_right front member)

theorem trim_padded {front back : List Char} {first last : Char} (blanksFront : Blanks front)
    (blanksBack : Blanks back) (opens : isBlank first = false) (closes : isBlank last = false)
    (inner : List Char) :
    trim (front ++ first :: (inner ++ last :: back)) = first :: (inner ++ [last]) := by
  have dropped : (front ++ first :: (inner ++ last :: back)).dropWhile isBlank =
      first :: (inner ++ last :: back) := by
    rw [List.dropWhile_append_of_pos blanksFront, List.dropWhile_cons_of_neg (by simp [opens])]
  have turned : (first :: (inner ++ last :: back)).reverse =
      back.reverse ++ last :: (first :: inner).reverse := by
    simp
  have blanksTurned : ∀ c ∈ back.reverse, isBlank c = true := fun c member =>
    blanksBack c (List.mem_reverse.mp member)
  rw [trim, dropped, turned, List.dropWhile_append_of_pos blanksTurned,
    List.dropWhile_cons_of_neg (by simp [closes])]
  simp

end Text

namespace Validation

open Text (Separators Blanks isSeparator wordsFrom)

/-- A text that lists names: between two of them there is a separator, and there may be more
separators between them and around them. -/
inductive Listing : List String → List Char → Prop
  | none {gap : List Char} (separators : Separators gap) : Listing [] gap
  | last {gap : List Char} {name : String} (separators : Separators gap)
      (named : isName name = true) : Listing [name] (gap ++ name.toList)
  | next {gap : List Char} {name : String} {c : Char} {names : List String} {rest : List Char}
      (separators : Separators gap) (named : isName name = true) (separates : isSeparator c = true)
      (listing : Listing names rest) : Listing (name :: names) (gap ++ name.toList ++ c :: rest)

/-- A value that lists names, plainly or in brackets for one host. -/
inductive Spells (names : List String) : String → Prop
  | plain {text : String} (listing : Listing names text.toList) : Spells names text
  | forHost {front host text back : List Char} (before : Blanks front) (after : Blanks back)
      (unequal : '=' ∉ host) (listing : Listing names text) :
      Spells names (String.ofList (front ++ '[' :: (host ++ '=' :: text ++ ']' :: back)))

/-- Values that list names together, each of them some. -/
def Listed (names values : List String) : Prop :=
  ∃ groups : List (List String), groups.flatten = names ∧ List.Forall₂ Spells groups values

theorem not_reserved_of_isName {name : String} (named : isName name = true) {c : Char}
    (member : c ∈ name.toList) : c ∉ reserved :=
  ((isName_iff.mp named).2 c member).2

theorem words_name {name : String} (named : isName name = true) :
    Text.words name.toList = [name.toList] := by
  refine Text.words_letters ?_ fun c member => ?_
  · exact fun empty => (isName_iff.mp named).1 (String.toList_eq_nil_iff.mp empty)
  · have comma : c ≠ ',' := by
      rintro rfl
      exact not_reserved_of_isName named member (by decide)
    rw [isSeparator, ((isName_iff.mp named).2 c member).1, Bool.or_false]
    exact beq_false_of_ne comma

namespace Listing

variable {names : List String} {cs : List Char}

theorem words (listing : Listing names cs) : Text.words cs = names.map String.toList := by
  induction listing with
  | @none gap separators =>
    rw [← List.append_nil gap, Text.words_separators_append separators]
    rfl
  | last separators named =>
    rw [Text.words_separators_append separators, words_name named]
    rfl
  | next separators named separates listing ih =>
    rw [Text.words_append_cons separates, Text.words_separators_append separators,
      words_name named, ih]
    rfl

theorem cons_separator (listing : Listing names cs) {c : Char} (separates : isSeparator c = true) :
    Listing names (c :: cs) := by
  have longer : ∀ {gap : List Char}, Separators gap → Separators (c :: gap) := fun separators =>
    List.forall_mem_cons.mpr ⟨separates, separators⟩
  cases listing with
  | none separators => exact .none (longer separators)
  | last separators named => exact .last (longer separators) named
  | next separators named follows listing => exact .next (longer separators) named follows listing

/-- What the reader has collected of a word and what it has not seen yet list the words that it
will find, if they are all names. -/
theorem ofWords (current cs : List Char)
    (named : ∀ w ∈ wordsFrom current cs, isName (String.ofList w) = true) :
    Listing ((wordsFrom current cs).map String.ofList) (current.reverse ++ cs) := by
  have noGap : Separators [] := List.forall_mem_nil _
  have letters : ∀ w : List Char, (String.ofList w).toList = w := fun _ => String.toList_ofList
  induction cs generalizing current with
  | nil =>
    cases current with
    | nil => exact .none noGap
    | cons d current =>
      have last := Listing.last noGap (named (d :: current).reverse List.mem_cons_self)
      rw [letters, List.nil_append] at last
      rwa [List.append_nil]
  | cons c rest ih =>
    by_cases separates : isSeparator c = true
    · cases current with
      | nil =>
        have same : wordsFrom [] (c :: rest) = wordsFrom [] rest := by
          rw [wordsFrom, if_pos separates]
          rfl
        rw [same] at named ⊢
        exact (ih [] named).cons_separator separates
      | cons d current =>
        have first : wordsFrom (d :: current) (c :: rest) =
            (d :: current).reverse :: wordsFrom [] rest := by
          rw [wordsFrom, if_pos separates]
          rfl
        rw [first] at named ⊢
        obtain ⟨namedFirst, namedRest⟩ := List.forall_mem_cons.mp named
        have next := Listing.next noGap namedFirst separates (ih [] namedRest)
        rwa [letters, List.nil_append] at next
    · have same : wordsFrom current (c :: rest) = wordsFrom (c :: current) rest := by
        rw [wordsFrom, if_neg separates]
      rw [same] at named ⊢
      have listing := ih (c :: current) named
      rwa [List.reverse_cons, List.append_assoc] at listing

end Listing

/-- A text lists names if they are its words. -/
theorem listing_iff {names : List String} {cs : List Char} :
    Listing names cs ↔
      Text.words cs = names.map String.toList ∧ ∀ name ∈ names, isName name = true := by
  constructor
  · intro listing
    refine ⟨listing.words, ?_⟩
    induction listing with
    | none separators => exact List.forall_mem_nil _
    | last separators named => exact List.forall_mem_singleton.mpr named
    | next separators named separates listing ih => exact List.forall_mem_cons.mpr ⟨named, ih⟩
  · rintro ⟨read, named⟩
    have back : (names.map String.toList).map String.ofList = names := by
      rw [List.map_map]
      simp [Function.comp_def]
    have listing := Listing.ofWords [] cs
    rw [show wordsFrom [] cs = Text.words cs from rfl, read, back] at listing
    refine listing fun w member => ?_
    obtain ⟨name, inside, rfl⟩ := List.mem_map.mp member
    rw [String.ofList_toList]
    exact named name inside

instance (names : List String) (cs : List Char) : Decidable (Listing names cs) :=
  decidable_of_iff _ listing_iff.symm

namespace Listing

variable {names : List String} {cs : List Char}

theorem not_mem_bracket (listing : Listing names cs) : '[' ∉ cs := by
  have apart : ∀ {gap : List Char}, Separators gap → '[' ∉ gap := by
    intro gap separators inside
    exact absurd (separators '[' inside) (by decide)
  have plain : ∀ {name : String}, isName name = true → '[' ∉ name.toList := by
    intro name named inside
    exact not_reserved_of_isName named inside (by decide)
  induction listing with
  | none separators => exact apart separators
  | last separators named =>
    rw [List.mem_append]
    exact not_or.mpr ⟨apart separators, plain named⟩
  | next separators named separates listing ih =>
    rw [List.mem_append, List.mem_append, List.mem_cons]
    refine not_or.mpr ⟨not_or.mpr ⟨apart separators, plain named⟩, not_or.mpr ⟨?_, ih⟩⟩
    rintro rfl
    exact absurd separates (by decide)

end Listing

theorem attributeText_plain {value : String} (plain : '[' ∉ value.toList) :
    attributeText value = Text.trim value.toList := by
  unfold attributeText
  split
  · rename_i rest opened
    refine absurd (Text.trim_subset value.toList ?_) plain
    rw [opened]
    exact List.mem_cons_self
  · rfl

theorem attributeText_forHost {front host text back : List Char} (before : Blanks front)
    (after : Blanks back) (unequal : '=' ∉ host) :
    attributeText (String.ofList (front ++ '[' :: (host ++ '=' :: text ++ ']' :: back))) = text := by
  have trimmed := Text.trim_padded before after (by decide : Text.isBlank '[' = false)
    (by decide : Text.isBlank ']' = false) (host ++ '=' :: text)
  have letters : ∀ c ∈ host, decide (c ≠ '=') = true := by
    intro c member
    refine decide_eq_true ?_
    rintro rfl
    exact unequal member
  have cut : (host ++ '=' :: text).dropWhile (· ≠ '=') = '=' :: text := by
    rw [List.dropWhile_append_of_pos letters]
    exact List.dropWhile_cons_of_neg (by decide)
  have closed : (host ++ '=' :: text ++ [']']).getLast? = some ']' := List.getLast?_concat
  unfold attributeText
  rw [String.toList_ofList, trimmed]
  simp only [closed, List.dropLast_concat, cut, ↓reduceIte]

theorem Spells.words {names : List String} {value : String} (spells : Spells names value) :
    (Text.words (attributeText value)).map String.ofList = names := by
  have read : Text.words (attributeText value) = names.map String.toList := by
    cases spells with
    | plain listing =>
      rw [attributeText_plain listing.not_mem_bracket, Text.words_trim, listing.words]
    | forHost before after unequal listing =>
      rw [attributeText_forHost before after unequal, listing.words]
  rw [read, List.map_map]
  simp [Function.comp_def]

/-- A name that stands for no reference: `NONE` in letters of any case. -/
def IsNone (name : String) : Prop := name.toList.map Char.toLower = "none".toList

instance (name : String) : Decidable (IsNone name) :=
  inferInstanceAs (Decidable (name.toList.map Char.toLower = "none".toList))

theorem sameLetters_none_iff {name : String} :
    Text.sameLetters name "NONE" = true ↔ IsNone name := by
  have lower : "NONE".toList.map Char.toLower = "none".toList := by decide
  rw [Text.sameLetters, lower, beq_iff_eq, IsNone]

/-- Values are read as the names that they list, apart from those that stand for no reference. -/
theorem Listed.referencedNames {names values : List String} (listed : Listed names values) :
    referencedNames values = names.filter fun name => decide ¬ IsNone name := by
  obtain ⟨groups, rfl, spelled⟩ := listed
  have read : (values.flatMap fun v => (Text.words (attributeText v)).map String.ofList) =
      groups.flatten := by
    induction spelled with
    | nil => rfl
    | cons first _ ih => rw [List.flatMap_cons, first.words, ih, List.flatten_cons]
  rw [Validation.referencedNames, read]
  refine List.filter_congr fun name _ => ?_
  rw [Bool.eq_iff_iff, Bool.not_eq_true', ← Bool.not_eq_true, sameLetters_none_iff,
    decide_eq_true_eq]

end Validation
end ClusterConf
