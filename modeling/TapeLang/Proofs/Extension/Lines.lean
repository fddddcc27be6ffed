import TapeLang.Extension.List
import TapeLang.Proofs.Text.Newlines
import TapeLang.Proofs.Text.Parts

/-! What a list of extensions lists, however it is laid out.

A line may be indented, may have an entry, may go on with blanks and may end in a comment. A text of
such lines lists their entries in order, whichever line ends it has. -/

set_option autoImplicit false

namespace TapeLang.ExtensionList

open Text (isBlank isLineBoundary)

/-! ## Layout -/

def OneLine (cs : List Char) : Prop := ∀ c ∈ cs, isLineBoundary c = false

/-- What stands around an entry. Line ends are blanks as well. -/
def Blanks (cs : List Char) : Prop := ∀ c ∈ cs, isBlank c

-- Both are decided along the text, not over all characters.
instance (cs : List Char) : Decidable (OneLine cs) := List.decidableBAll (isLineBoundary · = false) cs

instance (cs : List Char) : Decidable (Blanks cs) := List.decidableBAll (isBlank · = true) cs

/-- What can be listed: something that fits on a line, has no blanks around it and starts no
comment. -/
structure IsEntry (cs : List Char) : Prop where
  nonempty : cs ≠ []
  bare : '#' ∉ cs
  oneLine : OneLine cs
  start : ∀ c ∈ cs.head?, isBlank c = false
  stop : ∀ c ∈ cs.getLast?, isBlank c = false

inductive Comment : List Char → Prop where
  | none : Comment []
  | some {cs : List Char} : OneLine cs → Comment ('#' :: cs)

inductive Line : List (List Char) → List Char → Prop where
  | blank {indent comment : List Char} : Blanks indent → Comment comment →
      Line [] (indent ++ comment)
  | entry {indent entry after comment : List Char} : Blanks indent → IsEntry entry → Blanks after →
      Comment comment → Line [entry] (indent ++ entry ++ after ++ comment)

inductive LineEnd : List Char → Prop where
  | feed : LineEnd ['\n']
  | both : LineEnd ['\r', '\n']
  | carriage : LineEnd ['\r']

/-- A text of lines, and what it lists. The last line has no end. -/
inductive Lists : List (List Char) → List Char → Prop where
  | last {entries : List (List Char)} {line : List Char} : Line entries line → Lists entries line
  | line {entries others : List (List Char)} {line stop rest : List Char} : Line entries line →
      LineEnd stop → Lists others rest → Lists (entries ++ others) (line ++ stop ++ rest)

/-! ## Entries of a line -/

section
variable {cs rest blanks : List Char} {c : Char}

theorem entry_comment (cs rest : List Char) : entry (cs ++ '#' :: rest) = entry cs := by
  rw [entry, Text.before_append, entry]

theorem ne_of_isBlank (blank : isBlank c) : (c != '#') = true := by
  refine bne_iff_ne.mpr ?_
  rintro rfl
  exact absurd blank (by decide)

theorem entry_indented (isBlanks : Blanks blanks) (cs : List Char) :
    entry (blanks ++ cs) = entry cs := by
  have before : Text.before '#' (blanks ++ cs) = blanks ++ Text.before '#' cs :=
    List.takeWhile_append_of_pos fun c there => ne_of_isBlank (isBlanks c there)
  rw [entry, before, Text.trimList, List.dropWhile_append_of_pos isBlanks, ← Text.trimList, entry]

theorem entry_blank (bare : '#' ∉ cs) (blank : isBlank c) : entry (cs ++ [c]) = entry cs := by
  have bareToo : '#' ∉ cs ++ [c] := by
    have other := bne_iff_ne.mp (ne_of_isBlank blank)
    simp [bare, other.symm]
  rw [entry, entry, Text.before_of_not_mem bare, Text.before_of_not_mem bareToo, Text.trimList,
    Text.trimList, List.dropWhile_append]
  split
  · rename_i none
    simp [List.isEmpty_iff.mp none, blank]
  · simp [blank]

theorem dropWhile_of_head? (start : ∀ c ∈ cs.head?, isBlank c = false) :
    cs.dropWhile isBlank = cs := by
  cases cs with
  | nil => rfl
  | cons c cs => exact List.dropWhile_cons_of_neg (by simp [start c rfl])

theorem IsEntry.entry_eq (isEntry : IsEntry cs) : entry cs = cs := by
  have last : cs.reverse.dropWhile isBlank = cs.reverse :=
    dropWhile_of_head? fun c found => isEntry.stop c (by rwa [List.head?_reverse] at found)
  rw [entry, Text.before_of_not_mem isEntry.bare, Text.trimList, dropWhile_of_head? isEntry.start,
    last, List.reverse_reverse]

end

/-! ## Lines one after the other -/

def kept (line : List Char) : List (List Char) := [entry line].filter (· != [])

/-- What a text lists after a line that has been read up to it, its nearest character first. -/
def listed (line : List Char) : List Char → List (List Char)
  | [] => kept line.reverse
  | c :: rest =>
    if isLineBoundary c then kept line.reverse ++ listed [] rest else listed (c :: line) rest

section
variable {line cs blanks comment rest : List Char} {flag : Bool}

theorem kept_nil : kept [] = [] := rfl

/-- It does not matter how a line ends: empty lines list nothing. -/
theorem listed_unified (start : flag = true → line = []) (cs : List Char) :
    listed line (Text.unified flag cs) = listed line cs := by
  induction cs generalizing line flag with
  | nil => rfl
  | cons c cs ih =>
    have fresh (line : List Char) : listed line (Text.unified false cs) = listed line cs := ih nofun
    rw [Text.unified]
    split
    · rename_i carriage
      subst carriage
      rw [listed, listed, if_pos (by decide), if_pos (by decide), ih fun _ => rfl]
    split
    · rename_i feed
      simp only [Bool.and_eq_true, decide_eq_true_eq] at feed
      obtain ⟨rfl, after⟩ := feed
      rw [start after, fresh]
      rfl
    · rw [listed, listed, fresh, fresh]

theorem filter_map_entry (lines : List (List Char)) :
    (lines.map entry).filter (· != []) = lines.flatMap kept := by
  induction lines with
  | nil => rfl
  | cons line lines ih => rw [List.flatMap_cons, ← ih, kept, ← List.filter_append]; rfl

theorem flatMap_splitLines (reader : Text.LineReader) (cs : List Char)
    (start : reader.afterReturn = true → reader.line = []) :
    (cs.foldl Text.LineReader.push reader).lines.toList.flatMap kept ++
        kept (cs.foldl Text.LineReader.push reader).line.reverse =
      reader.lines.toList.flatMap kept ++ listed reader.line cs := by
  induction cs generalizing reader with
  | nil => rfl
  | cons c cs ih =>
    rw [List.foldl_cons, Text.LineReader.push]
    split
    · rename_i feed
      simp only [Bool.and_eq_true, decide_eq_true_eq] at feed
      obtain ⟨rfl, after⟩ := feed
      rw [ih, start after]
      · rfl
      · exact fun no => absurd no Bool.false_ne_true
    split
    · rename_i boundary
      rw [ih, listed, if_pos boundary]
      · simp
      · exact fun _ => rfl
    · rename_i inside
      rw [ih, listed, if_neg inside]
      exact fun no => absurd no Bool.false_ne_true

theorem entries_eq (text : List Char) : entries text = listed [] text := by
  have lines := flatMap_splitLines {} (Text.unifyNewlines text) fun no => absurd no Bool.false_ne_true
  have same : listed [] (Text.unifyNewlines text) = listed [] text := by
    rw [Text.unifyNewlines_eq, listed_unified fun _ => rfl]
  rw [entries, filter_map_entry, Text.splitLines, ← same]
  refine Eq.trans ?_ lines
  split
  · rename_i none
    simp [none, kept_nil]
  · simp

theorem kept_indented (isBlanks : Blanks blanks) (line : List Char) :
    kept (blanks ++ line) = kept line := by
  rw [kept, entry_indented isBlanks, kept]

/-! ## What each part of a line does -/

def Stops (rest : List Char) : Prop := ∀ c ∈ rest.head?, isLineBoundary c = true

theorem listed_stops (stops : Stops rest) : listed line rest = kept line.reverse ++ listed [] rest := by
  cases rest with
  | nil => rw [listed, listed, List.reverse_nil, kept_nil, List.append_nil]
  | cons c rest =>
    have boundary := stops c rfl
    rw [listed, listed, if_pos boundary, if_pos boundary, List.reverse_nil, kept_nil, List.nil_append]

theorem listed_append (inside : OneLine cs) (rest : List Char) :
    listed line (cs ++ rest) = listed (cs.reverse ++ line) rest := by
  induction cs generalizing line with
  | nil => rfl
  | cons c cs ih =>
    obtain ⟨here, others⟩ := List.forall_mem_cons.mp inside
    rw [List.cons_append, listed, if_neg (by simp [here]), ih others, List.reverse_cons,
      List.append_assoc, List.singleton_append]

theorem listed_indented (isBlanks : Blanks blanks) (line cs : List Char) :
    listed (line ++ blanks) cs = listed line cs := by
  have reversed : Blanks blanks.reverse := fun c there => isBlanks c (List.mem_reverse.mp there)
  induction cs generalizing line with
  | nil => rw [listed, listed, List.reverse_append, kept_indented reversed]
  | cons c cs ih =>
    rw [listed, listed, List.reverse_append, kept_indented reversed, ← List.cons_append, ih]

theorem listed_blanks (isBlanks : Blanks blanks) (rest : List Char) :
    listed [] (blanks ++ rest) = listed [] rest := by
  induction blanks with
  | nil => rfl
  | cons c blanks ih =>
    obtain ⟨here, others⟩ := List.forall_mem_cons.mp isBlanks
    have one : Blanks [c] := by simpa [Blanks] using here
    rw [List.cons_append, listed]
    split
    · exact ih others
    · exact (listed_indented one [] _).trans (ih others)

theorem listed_comment (isComment : Comment comment) (stops : Stops rest) :
    listed line (comment ++ rest) = kept line.reverse ++ listed [] rest := by
  cases isComment with
  | none => exact listed_stops stops
  | @some cs inside =>
    have all : OneLine ('#' :: cs) :=
      List.forall_mem_cons.mpr ⟨by decide, inside⟩
    rw [listed_append all, listed_stops stops, List.reverse_append, List.reverse_reverse, kept,
      entry_comment, kept]

-- A blank may itself end the line; the entry is complete by then.
theorem listed_after (bare : '#' ∉ line) (isBlanks : Blanks blanks) (isComment : Comment comment)
    (stops : Stops rest) :
    listed line (blanks ++ (comment ++ rest)) = kept line.reverse ++ listed [] rest := by
  induction blanks generalizing line with
  | nil => exact listed_comment isComment stops
  | cons c blanks ih =>
    obtain ⟨here, others⟩ := List.forall_mem_cons.mp isBlanks
    rw [List.cons_append, listed]
    split
    · rw [listed_blanks others, listed_comment isComment stops, List.reverse_nil, kept_nil,
        List.nil_append]
    · have other : '#' ≠ c := (bne_iff_ne.mp (ne_of_isBlank here)).symm
      rw [ih (by simp [other, bare]) others, List.reverse_cons, kept,
        entry_blank (by simpa using bare) here, kept]

theorem listed_line {es : List (List Char)} (isLine : Line es line) (stops : Stops rest) :
    listed [] (line ++ rest) = es ++ listed [] rest := by
  cases isLine with
  | blank isBlanks isComment =>
    rw [List.append_assoc, listed_blanks isBlanks, listed_comment isComment stops]
    rfl
  | @entry _ e _ _ isBlanks isEntry after isComment =>
    have whole : kept e = [e] := by simp [kept, isEntry.entry_eq, isEntry.nonempty]
    rw [List.append_assoc, List.append_assoc, List.append_assoc, listed_blanks isBlanks,
      listed_append isEntry.oneLine, List.append_nil,
      listed_after (by simpa using isEntry.bare) after isComment stops, List.reverse_reverse, whole]

theorem LineEnd.isBlanks {stop : List Char} (isEnd : LineEnd stop) : Blanks stop := by
  cases isEnd <;> decide

theorem LineEnd.stops {stop : List Char} (isEnd : LineEnd stop) (rest : List Char) :
    Stops (stop ++ rest) := by
  cases isEnd <;> simp [Stops] <;> decide

end

/-- A text lists the entries of its lines. -/
theorem Lists.entries_eq {es : List (List Char)} {text : List Char} (lists : Lists es text) :
    entries text = es := by
  rw [ExtensionList.entries_eq]
  induction lists with
  | last isLine =>
    have stops : Stops [] := nofun
    have listed := listed_line isLine stops
    rwa [List.append_nil, ExtensionList.listed, List.reverse_nil, kept_nil, List.append_nil] at listed
  | line isLine isEnd _ ih =>
    rw [List.append_assoc, listed_line isLine (isEnd.stops _), listed_blanks isEnd.isBlanks, ih]

end TapeLang.ExtensionList
