import Mathlib.Data.List.Basic
import TapeLang.Files.Path
import TapeLang.Proofs.Text.Parts

/-! Normal paths: what they look like, and where a path leads from a directory.

A normal absolute path is a root and the names that lead down from it. Following a path from there
goes down by a name, up by two dots, and nowhere by a dot or by nothing. -/

set_option autoImplicit false

namespace TapeLang

namespace Path

structure IsName (part : List Char) : Prop where
  nonempty : part ≠ []
  dot : part ≠ ['.']
  dots : part ≠ ['.', '.']
  whole : '/' ∉ part

/-- Where an absolute path starts: two slashes may stand for another root than one. -/
def IsRoot (lead : List Char) : Prop := lead = ['/'] ∨ lead = ['/', '/']

def spell (lead : List Char) (place : List (List Char)) : List Char :=
  lead ++ Text.joinWith '/' place

/-- Paths that are absolute and have no part that could be left out. -/
def Normal (path : List Char) : Prop :=
  ∃ lead place, IsRoot lead ∧ (∀ part ∈ place, IsName part) ∧ path = spell lead place

def follow (place : List (List Char)) (part : List Char) : List (List Char) :=
  if part = [] ∨ part = ['.'] then place
  else if part = ['.', '.'] then place.dropLast
  else place ++ [part]

def followAll (place : List (List Char)) (path : List Char) : List (List Char) :=
  (Text.splitAt '/' path).foldl follow place

/-- The normal path of what a path leads to from a place below a root. An absolute path has its own
root, and leads down from there. -/
def seenFrom (lead : List Char) (place : List (List Char)) (path : List Char) : List Char :=
  if isAbsolute path then spell (root path) (followAll [] path) else spell lead (followAll place path)

section
variable {lead path part : List Char} {place parts : List (List Char)}

theorem follow_names (names : ∀ part ∈ place, IsName part) (whole : '/' ∉ part) :
    ∀ other ∈ follow place part, IsName other := by
  unfold follow
  split
  · exact names
  split
  · exact fun other there => names other (List.dropLast_subset place there)
  · rename_i some notDots
    rw [not_or] at some
    intro other there
    cases List.mem_append.mp there with
    | inl there => exact names other there
    | inr there =>
      rw [List.mem_singleton.mp there]
      exact ⟨some.1, some.2, notDots, whole⟩

theorem foldl_follow_names (names : ∀ part ∈ place, IsName part)
    (whole : ∀ part ∈ parts, '/' ∉ part) : ∀ other ∈ parts.foldl follow place, IsName other := by
  induction parts generalizing place with
  | nil => exact names
  | cons part parts ih =>
    exact ih (follow_names names (whole part List.mem_cons_self))
      fun other there => whole other (List.mem_cons_of_mem _ there)

theorem followAll_names (names : ∀ part ∈ place, IsName part) (path : List Char) :
    ∀ part ∈ followAll place path, IsName part :=
  foldl_follow_names names fun _ there => Text.not_mem_of_mem_splitAt there

theorem foldl_follow_of_names (names : ∀ part ∈ parts, IsName part) :
    parts.foldl follow place = place ++ parts := by
  induction parts generalizing place with
  | nil => rw [List.foldl_nil, List.append_nil]
  | cons part parts ih =>
    obtain ⟨name, others⟩ := List.forall_mem_cons.mp names
    have down : follow place part = place ++ [part] := by
      rw [follow, if_neg (not_or.mpr ⟨name.nonempty, name.dot⟩), if_neg name.dots]
    rw [List.foldl_cons, down, ih others, List.append_assoc, List.singleton_append]

-- Below a root there are no two dots to be kept.
theorem pushPart_absolute (names : ∀ part ∈ place, IsName part) (part : List Char) :
    pushPart true place.reverse part = (follow place part).reverse := by
  unfold pushPart follow
  by_cases nowhere : part = [] ∨ part = ['.']
  · rw [if_pos (by simpa using nowhere), if_pos nowhere]
  rw [if_neg (by simpa using nowhere), if_neg nowhere]
  by_cases up : part = ['.', '.']
  · rw [if_pos up, if_pos up]
    rcases List.eq_nil_or_concat place with rfl | ⟨above, last, rfl⟩
    · rfl
    · have name := names last (by simp)
      simp [name.dots]
  · rw [if_neg up, if_neg up, List.reverse_append]
    rfl

theorem foldl_pushPart (names : ∀ part ∈ place, IsName part) (whole : ∀ part ∈ parts, '/' ∉ part) :
    parts.foldl (pushPart true) place.reverse = (parts.foldl follow place).reverse := by
  induction parts generalizing place with
  | nil => rfl
  | cons part parts ih =>
    obtain ⟨isWhole, others⟩ := List.forall_mem_cons.mp whole
    rw [List.foldl_cons, List.foldl_cons, pushPart_absolute names,
      ih (follow_names names isWhole) others]

/-! ## Normal forms -/

theorem exists_root (isAbsolute : isAbsolute path) : IsRoot (root path) := by
  unfold root
  split
  · exact .inl rfl
  · exact .inr rfl
  · exact .inl rfl
  · rename_i none
    cases path with
    | nil => cases isAbsolute
    | cons c path =>
      obtain rfl : c = '/' := by simpa [Path.isAbsolute] using isAbsolute
      exact absurd rfl (none path)

theorem normalize_of_absolute (isAbsolute : isAbsolute path) :
    normalize path = spell (root path) (followAll [] path) := by
  have parts : normalParts path = followAll [] path := by
    rw [normalParts, isAbsolute]
    have folded := foldl_pushPart (List.forall_mem_nil IsName) fun part
      (there : part ∈ Text.splitAt '/' path) => Text.not_mem_of_mem_splitAt there
    rw [List.reverse_nil] at folded
    rw [folded, List.reverse_reverse, followAll]
  rw [normalize, parts]
  rcases exists_root isAbsolute with lead | lead <;> rw [lead] <;> rfl

theorem normal_seenFrom (isRoot : IsRoot lead) (names : ∀ part ∈ place, IsName part)
    (path : List Char) : Normal (seenFrom lead place path) := by
  unfold seenFrom
  split
  · exact ⟨_, _, exists_root ‹_›, followAll_names (List.forall_mem_nil IsName) path, rfl⟩
  · exact ⟨_, _, isRoot, followAll_names names path, rfl⟩

theorem normal_normalize (isAbsolute : isAbsolute path) : Normal (normalize path) := by
  rw [normalize_of_absolute isAbsolute]
  exact ⟨_, _, exists_root isAbsolute, followAll_names (List.forall_mem_nil IsName) path, rfl⟩

theorem followAll_root (isRoot : IsRoot lead) (path : List Char) :
    followAll place (lead ++ path) = followAll place path := by
  rcases isRoot with rfl | rfl <;> rfl

theorem isAbsolute_joinWith (names : ∀ part ∈ place, IsName part) :
    isAbsolute (Text.joinWith '/' place) = false := by
  cases place with
  | nil => rfl
  | cons part parts =>
    have name := names part List.mem_cons_self
    obtain ⟨c, more, rfl⟩ := List.exists_cons_of_ne_nil name.nonempty
    have other : c ≠ '/' := fun same => name.whole (same ▸ List.mem_cons_self)
    cases parts <;> simp [Text.joinWith, isAbsolute, other]

/-- A place is found again by following its path. -/
theorem followAll_spell (isRoot : IsRoot lead) (names : ∀ part ∈ place, IsName part) :
    followAll [] (spell lead place) = place := by
  rw [spell, followAll_root isRoot]
  cases place with
  | nil => rfl
  | cons part parts =>
    rw [followAll, Text.splitAt_joinWith (List.cons_ne_nil part parts) fun part there =>
      (names part there).whole, foldl_follow_of_names names, List.nil_append]

theorem root_append (isRoot : IsRoot lead) (relative : isAbsolute path = false) :
    root (lead ++ path) = lead := by
  cases path with
  | nil => rcases isRoot with rfl | rfl <;> rfl
  | cons c path =>
    have other : c ≠ '/' := by simpa [isAbsolute] using relative
    rcases isRoot with rfl | rfl <;> simp [root, other]

theorem isAbsolute_append (isRoot : IsRoot lead) (path : List Char) : isAbsolute (lead ++ path) := by
  rcases isRoot with rfl | rfl <;> rfl

theorem root_spell (isRoot : IsRoot lead) (names : ∀ part ∈ place, IsName part) :
    root (spell lead place) = lead :=
  root_append isRoot (isAbsolute_joinWith names)

/-- A normal path has one root, and names one place below it. -/
theorem spell_inj {otherLead : List Char} {otherPlace : List (List Char)} (isRoot : IsRoot lead)
    (names : ∀ part ∈ place, IsName part) (otherRoot : IsRoot otherLead)
    (otherNames : ∀ part ∈ otherPlace, IsName part)
    (same : spell lead place = spell otherLead otherPlace) :
    lead = otherLead ∧ place = otherPlace := by
  constructor
  · rw [← root_spell isRoot names, same, root_spell otherRoot otherNames]
  · rw [← followAll_spell isRoot names, same, followAll_spell otherRoot otherNames]

theorem normalize_of_normal (normal : Normal path) : normalize path = path := by
  obtain ⟨lead, place, isRoot, names, rfl⟩ := normal
  have absolute : isAbsolute (spell lead place) := isAbsolute_append isRoot _
  rw [normalize_of_absolute absolute, followAll_spell isRoot names, root_spell isRoot names]

theorem isAbsolute_join {directory : List Char} (isAbsolute : isAbsolute directory)
    (path : List Char) : Path.isAbsolute (join directory path) := by
  unfold join
  split
  · assumption
  · cases directory with
    | nil => cases isAbsolute
    | cons c directory => split <;> exact isAbsolute

theorem normal_absolute {directory : List Char} (isAbsolute : isAbsolute directory)
    (path : List Char) : Normal (absolute directory path) :=
  normal_normalize (isAbsolute_join isAbsolute path)

theorem isAbsolute_of_normal (normal : Normal path) : isAbsolute path := by
  obtain ⟨lead, place, isRoot, -, rfl⟩ := normal
  exact isAbsolute_append isRoot _

/-- A normal path is seen alike from everywhere. -/
theorem absolute_of_normal (normal : Normal path) (directory : List Char) :
    absolute directory path = path := by
  rw [absolute, join, if_pos (isAbsolute_of_normal normal), normalize_of_normal normal]

theorem followAll_concat (isName : IsName part) (path : List Char) :
    followAll place (path ++ '/' :: part) = followAll place path ++ [part] := by
  have only : ∀ other ∈ [part], IsName other := by simpa using isName
  have alone : Text.splitAt '/' part = [part] :=
    Text.splitAt_joinWith (List.cons_ne_nil part []) fun other there => (only other there).whole
  rw [followAll, Text.splitAt_append, List.foldl_append, alone, foldl_follow_of_names only, followAll]

/-! ## Directories -/

theorem joinWith_concat (some : place ≠ []) (part : List Char) :
    Text.joinWith '/' (place ++ [part]) = Text.joinWith '/' place ++ '/' :: part := by
  induction place with
  | nil => exact absurd rfl some
  | cons first place ih =>
    cases place with
    | nil => rfl
    | cons next more =>
      rw [List.cons_append, Text.joinWith_cons _ _ (by simp), ih (List.cons_ne_nil next more),
        Text.joinWith_cons _ _ (List.cons_ne_nil next more), List.append_assoc, List.cons_append]

/-- The path of a place that is not the root ends in a character of a name. -/
theorem exists_spell_concat (some : place ≠ []) (names : ∀ part ∈ place, IsName part) :
    ∃ front c, Text.joinWith '/' place = front ++ [c] ∧ c ≠ '/' := by
  obtain ⟨above, last, rfl⟩ := (List.eq_nil_or_concat' place).resolve_left some
  have name := names last (by simp)
  obtain ⟨start, c, rfl⟩ := (List.eq_nil_or_concat' last).resolve_left name.nonempty
  have other : c ≠ '/' := fun same => name.whole (by simp [same])
  by_cases none : above = []
  · exact ⟨start, c, by rw [none]; rfl, other⟩
  · exact ⟨Text.joinWith '/' above ++ '/' :: start, c, by
      rw [joinWith_concat none, List.append_assoc, List.cons_append], other⟩

/-- What a path has before its last part, the slash between them included. -/
theorem directoryName_append (front : List Char) {last : List Char} (whole : '/' ∉ last) :
    directoryName (front ++ '/' :: last) =
      if (front ++ ['/']).all (· = '/') then front ++ ['/']
      else ((front ++ ['/']).reverse.dropWhile (· = '/')).reverse := by
  have head : (front ++ '/' :: last).take ((front ++ '/' :: last).length - last.length) =
      front ++ ['/'] := by
    rw [List.append_cons, List.take_left']
    simp only [List.length_append, List.length_singleton]
    omega
  rw [directoryName, baseName, Text.afterLast_append front whole, head]

theorem directoryName_spell (isRoot : IsRoot lead) (names : ∀ part ∈ place, IsName part) :
    directoryName (spell lead place) = spell lead place.dropLast := by
  rcases List.eq_nil_or_concat' place with rfl | ⟨above, last, rfl⟩
  · rcases isRoot with rfl | rfl <;> rfl
  · have whole := (names last (by simp)).whole
    rw [List.dropLast_concat]
    by_cases none : above = []
    · subst none
      rcases isRoot with rfl | rfl
      · exact directoryName_append [] whole
      · exact directoryName_append ['/'] whole
    · obtain ⟨front, c, ends, other⟩ := exists_spell_concat none
        fun part there => names part (List.mem_append_left _ there)
      rw [spell, joinWith_concat none, ← List.append_assoc, directoryName_append _ whole, spell, ends]
      simp [other]

theorem followAll_append (names : ∀ part ∈ place, IsName part) (some : place ≠ [])
    (path : List Char) :
    followAll [] (Text.joinWith '/' place ++ '/' :: path) = followAll place path := by
  rw [followAll, Text.splitAt_append, List.foldl_append,
    Text.splitAt_joinWith some fun part there => (names part there).whole,
    foldl_follow_of_names names, List.nil_append, followAll]

/-- The directory and the path are joined by one slash. -/
theorem join_spell (isRoot : IsRoot lead) (names : ∀ part ∈ place, IsName part)
    (relative : isAbsolute path = false) : join (spell lead place) path =
      if place = [] then lead ++ path else lead ++ (Text.joinWith '/' place ++ '/' :: path) := by
  rw [join, if_neg (by simp [relative])]
  by_cases none : place = []
  · subst none
    rcases isRoot with rfl | rfl <;> rfl
  · obtain ⟨front, c, ends, other⟩ := exists_spell_concat none names
    have joins : ¬ ((spell lead place).isEmpty || (spell lead place).getLast? = some '/') := by
      simp [spell, ends, other]
    rw [if_neg joins, if_neg none, spell, List.append_assoc]

/-- A path is seen from a directory by following its parts. -/
theorem absolute_spell (isRoot : IsRoot lead) (names : ∀ part ∈ place, IsName part)
    (path : List Char) : absolute (spell lead place) path = seenFrom lead place path := by
  unfold seenFrom absolute
  split
  · rename_i isAbsolute
    rw [join, if_pos isAbsolute, normalize_of_absolute isAbsolute]
  · rename_i relative
    rw [Bool.not_eq_true] at relative
    rw [join_spell isRoot names relative]
    split
    · rename_i none
      rw [normalize_of_absolute (isAbsolute_append isRoot _), root_append isRoot relative,
        followAll_root isRoot, none]
    · rename_i some
      have below : isAbsolute (Text.joinWith '/' place ++ '/' :: path) = false := by
        have starts := isAbsolute_joinWith names
        obtain ⟨front, c, ends, other⟩ := exists_spell_concat some names
        rw [ends] at starts ⊢
        cases front with
        | nil => simp [isAbsolute, other]
        | cons d front => exact starts
      rw [normalize_of_absolute (isAbsolute_append isRoot _), root_append isRoot below,
        followAll_root isRoot, followAll_append names some]

end

end Path

end TapeLang
