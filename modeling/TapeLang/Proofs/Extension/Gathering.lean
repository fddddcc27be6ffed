import TapeLang.Proofs.Extension.Lines
import TapeLang.Proofs.Files.Paths
import TapeLang.Proofs.Text.Case
import TapeLang.Proofs.Text.Utf8

/-! Paths that command lines give for extensions, and what they stand for.

A list stands for what it lists, seen from the directory that it is in. Any other path stands for
itself. What some paths stand for is put together in order, and is not expanded again. -/

set_option autoImplicit false

namespace TapeLang

namespace Path

variable {directory path name : List Char}

/-! ## Where a list is -/

theorem suffix_join (directory path : List Char) : path <:+ join directory path := by
  unfold join
  split
  · exact List.suffix_rfl
  split
  · exact List.suffix_append directory path
  · exact (List.suffix_cons '/' path).trans (List.suffix_append directory _)

theorem isName_of_ending (ending : Text.EndsInLetters name) (whole : '/' ∉ name) : IsName name := by
  obtain ⟨stem, b, f, x, rfl, -⟩ := ending
  refine ⟨by simp, fun same => ?_, fun same => ?_, whole⟩ <;>
    · have lengths := congrArg List.length same
      simp only [List.length_append, List.length_cons, List.length_nil] at lengths
      omega

/-- The ending of a path is the ending of its last part. -/
theorem ending_last {front last : List Char} (ending : Text.EndsInLetters (front ++ '/' :: last)) :
    Text.EndsInLetters last := by
  obtain ⟨stem, b, f, x, same, isB, isF, isX⟩ := ending
  have part : '/' :: last <:+ front ++ '/' :: last := List.suffix_append front _
  have letters : ['.', b, f, x] <:+ front ++ '/' :: last := same ▸ List.suffix_append stem _
  rcases List.suffix_or_suffix_of_suffix letters part with inside | outside
  · rcases List.suffix_cons_iff.mp inside with all | ⟨rest, ends⟩
    · cases all
    · exact ⟨rest, b, f, x, ends.symm, isB, isF, isX⟩
  · have slash : '/' ∈ ['.', b, f, x] := outside.subset List.mem_cons_self
    rcases isB with rfl | rfl <;> rcases isF with rfl | rfl <;> rcases isX with rfl | rfl <;>
      exact absurd slash (by decide)

/-- What has the ending of a list is in a directory, by a name. -/
theorem exists_directory (isAbsolute : Path.isAbsolute directory) (ending : Text.EndsInLetters path) :
    ∃ lead place name, IsRoot lead ∧ (∀ part ∈ place, IsName part) ∧ IsName name ∧
      absolute directory path = spell lead (place ++ [name]) := by
  have absolutely := isAbsolute_join isAbsolute path
  have ends : Text.EndsInLetters (join directory path) := by
    obtain ⟨stem, b, f, x, rfl, letters⟩ := ending
    obtain ⟨front, same⟩ := suffix_join directory (stem ++ ['.', b, f, x])
    exact ⟨front ++ stem, b, f, x, by rw [← same, List.append_assoc], letters⟩
  have slash : '/' ∈ join directory path := by
    cases joined : join directory path with
    | nil => rw [joined] at absolutely; cases absolutely
    | cons c rest => simp_all [Path.isAbsolute]
  obtain ⟨front, name, joined, whole⟩ := Text.exists_last slash
  have isName := isName_of_ending (ending_last (joined ▸ ends)) whole
  refine ⟨_, followAll [] front, name, exists_root absolutely,
    followAll_names (List.forall_mem_nil IsName) front, isName, ?_⟩
  rw [absolute, normalize_of_absolute absolutely, ← followAll_concat isName, ← joined]

end Path

namespace ExtensionList

variable {tree : FileTree} {path : List Char} {paths : List (List Char)}

/-! ## What paths stand for -/

theorem isList_iff : isList path = true ↔ Text.EndsInLetters path := Text.isSuffixOf_lowerFrom path

theorem gather_cons (tree : FileTree) (path : List Char) (rest : List (List Char)) :
    gather tree (path :: rest) =
      gather tree [path] >>= fun first => (first ++ ·) <$> gather tree rest := by
  have step (more : List (List Char)) : expand tree (path :: more) =
      (if isList path then read tree path else .ok [path]) >>= fun first =>
        (first ++ ·) <$> expand tree more := by
    rw [expand]
    split <;> rfl
  rw [gather, gather, gather, step, step]
  cases (if isList path then read tree path else .ok [path]) with
  | error failure => rfl
  | ok first =>
    cases expand tree rest with
    | error failure => rfl
    | ok others => simp [bind, Except.bind, Functor.map, Except.map, expand]

theorem gather_eq_flatten (tree : FileTree) (paths : List (List Char)) :
    gather tree paths = List.flatten <$> paths.mapM fun path => gather tree [path] := by
  induction paths with
  | nil => rfl
  | cons path rest ih =>
    rw [gather_cons, ih, List.mapM_cons]
    cases gather tree [path] with
    | error failure => rfl
    | ok first => cases rest.mapM fun path => gather tree [path] <;> rfl

theorem gather_list (ending : Text.EndsInLetters path) :
    gather tree [path] = (·.map tree.absolute) <$> read tree path := by
  rw [gather, expand, expand, if_pos (isList_iff.mpr ending)]
  cases read tree path with
  | error failure => rfl
  | ok found => simp [bind, Except.bind, pure, Except.pure, Functor.map, Except.map]

theorem gather_module (other : ¬ Text.EndsInLetters path) :
    gather tree [path] = .ok [tree.absolute path] := by
  rw [gather, expand, expand, if_neg fun is => other (isList_iff.mp is)]
  rfl

theorem gather_modules (others : ∀ path ∈ paths, ¬ Text.EndsInLetters path) :
    gather tree paths = .ok (paths.map tree.absolute) := by
  induction paths with
  | nil => rfl
  | cons path rest ih =>
    obtain ⟨other, others⟩ := List.forall_mem_cons.mp others
    rw [gather_cons, gather_module other, ih others]
    rfl

theorem normal_of_gather {found : List (List Char)} (gathered : gather tree paths = .ok found) :
    ∀ path ∈ found, Path.Normal path := by
  rw [gather] at gathered
  cases expanded : expand tree paths with
  | error failure => rw [expanded] at gathered; cases gathered
  | ok several =>
    rw [expanded] at gathered
    cases gathered
    intro path there
    obtain ⟨given, -, rfl⟩ := List.mem_map.mp there
    exact Path.normal_absolute rfl given

theorem gather_found {found : List (List Char)} (gathered : gather tree paths = .ok found)
    (others : ∀ path ∈ found, ¬ Text.EndsInLetters path) : gather tree found = .ok found := by
  have still : found.map tree.absolute = found.map id :=
    List.map_congr_left fun path there =>
      Path.absolute_of_normal (normal_of_gather gathered path there) tree.workingPath
  rw [gather_modules others, still, List.map_id]

/-! ## What lists stand for -/

theorem absolute_locate {directory : List Char} (isAbsolute : Path.isAbsolute directory)
    (entry : List Char) :
    tree.absolute (locate tree.workingPath directory entry) = Path.absolute directory entry := by
  unfold locate
  split
  · rename_i absolutely
    rw [FileTree.absolute, Path.absolute, Path.absolute, Path.join, Path.join, if_pos absolutely,
      if_pos absolutely]
  · have joined : Path.absolute tree.workingPath (Path.join directory entry) =
        Path.absolute directory entry := by
      rw [Path.absolute, Path.join, if_pos (Path.isAbsolute_join isAbsolute entry), Path.absolute]
    rw [joined]
    exact Path.absolute_of_normal (Path.normal_absolute isAbsolute entry) tree.workingPath

theorem read_file {text : String} {executed : Except Failure ExtensionModule}
    (found : tree.resolve path = .ok (.file (Text.Utf8.encode text) executed)) :
    read tree path = .ok ((entries text.toList).map
      (locate tree.workingPath (Path.directoryName (tree.absolute path)))) := by
  have present : tree.contains path = true := by rw [FileTree.contains, found]
  have content : tree.readBytes path = .ok (Text.Utf8.encode text) := by
    rw [FileTree.readBytes, found]
  simp only [read, present, if_true, content, bind, Except.bind, Text.Utf8.decode?_encode]

/-- A list stands for what it lists, seen from its directory. -/
theorem gather_lists {text : String} {executed : Except Failure ExtensionModule}
    {es : List (List Char)} (ending : Text.EndsInLetters path)
    (found : tree.resolve path = .ok (.file (Text.Utf8.encode text) executed))
    (lists : Lists es text.toList) :
    ∃ lead place name, Path.IsRoot lead ∧ (∀ part ∈ place, Path.IsName part) ∧ Path.IsName name ∧
      tree.absolute path = Path.spell lead (place ++ [name]) ∧
      gather tree [path] = .ok (es.map (Path.seenFrom lead place)) := by
  have absolutely : Path.isAbsolute tree.workingPath := rfl
  obtain ⟨lead, place, name, isRoot, names, isName, spelled⟩ :=
    Path.exists_directory absolutely ending
  have directory : Path.directoryName (tree.absolute path) = Path.spell lead place := by
    have all : ∀ part ∈ place ++ [name], Path.IsName part :=
      List.forall_mem_append.mpr ⟨names, by simpa using isName⟩
    rw [FileTree.absolute, spelled, Path.directoryName_spell isRoot all, List.dropLast_concat]
  refine ⟨lead, place, name, isRoot, names, isName, spelled, ?_⟩
  rw [gather_list ending, read_file found, lists.entries_eq, directory]
  change Except.ok ((es.map _).map tree.absolute) = _
  rw [List.map_map]
  congr 1
  refine List.map_congr_left fun entry _ => ?_
  exact (absolute_locate (Path.isAbsolute_append isRoot _) entry).trans
    (Path.absolute_spell isRoot names entry)

/-- What paths stand for. A list, however it is laid out, stands for its entries in order, by normal
paths that are seen from its directory. Some paths stand for what each of them stands for, a list for
what is read from it and nothing more, and any other path for itself. -/
theorem gather_tells (tree : FileTree) :
    (∀ {path : List Char} {text : String} {executed : Except Failure ExtensionModule}
        {es : List (List Char)}, Text.EndsInLetters path →
      tree.resolve path = .ok (.file (Text.Utf8.encode text) executed) → Lists es text.toList →
      ∃ lead place name, Path.IsRoot lead ∧ (∀ part ∈ place, Path.IsName part) ∧ Path.IsName name ∧
        tree.absolute path = Path.spell lead (place ++ [name]) ∧
        gather tree [path] = .ok (es.map (Path.seenFrom lead place)) ∧
        ∀ entry ∈ es, Path.Normal (Path.seenFrom lead place entry)) ∧
    (∀ paths, gather tree paths = List.flatten <$> paths.mapM fun path => gather tree [path]) ∧
    (∀ path, Text.EndsInLetters path →
      gather tree [path] = (·.map tree.absolute) <$> read tree path) ∧
    (∀ path, ¬ Text.EndsInLetters path → gather tree [path] = .ok [tree.absolute path]) ∧
    ∀ paths found, gather tree paths = .ok found → (∀ path ∈ found, ¬ Text.EndsInLetters path) →
      gather tree found = .ok found := by
  refine ⟨?_, gather_eq_flatten tree, fun _ => gather_list, fun _ => gather_module,
    fun _ _ => gather_found⟩
  intro path text executed es ending found lists
  obtain ⟨lead, place, name, isRoot, names, isName, spelled, gathered⟩ :=
    gather_lists ending found lists
  exact ⟨lead, place, name, isRoot, names, isName, spelled, gathered,
    fun entry _ => Path.normal_seenFrom isRoot names entry⟩

/-- A list in another directory than the working one, whose lines differ in layout. It has a comment, a
path that leads to another list, and an absolute one. -/
def mixedText : List Char :=
  "# all\r\n".toList ++ ("\t../more//./m.bfx  # more\r".toList ++ "/x/y.py ".toList)

def mixedTree : FileTree where
  workingDirectory := ["home".toList]
  entries := [(["lists".toList, "All.BFX".toList],
    .plain (Text.Utf8.encode (String.ofList mixedText)))]

theorem mixedText_lists : Lists ["../more//./m.bfx".toList, "/x/y.py".toList] mixedText := by
  have note : Line [] "# all".toList := @Line.blank [] _ (by decide) (.some (by decide))
  have list : Line ["../more//./m.bfx".toList] "\t../more//./m.bfx  # more".toList :=
    @Line.entry "\t".toList _ "  ".toList _ (by decide)
      ⟨by decide, by decide, by decide, by rintro _ ⟨⟩; decide, by rintro _ ⟨⟩; decide⟩ (by decide)
      (.some (by decide))
  have script : Line ["/x/y.py".toList] "/x/y.py ".toList :=
    @Line.entry [] "/x/y.py".toList " ".toList [] (by decide)
      ⟨by decide, by decide, by decide, by rintro _ ⟨⟩; decide, by rintro _ ⟨⟩; decide⟩ (by decide)
      .none
  exact .line note .both (.line list .carriage (.last script))

theorem mixed_gathered :
    (Text.EndsInLetters "../lists/All.BFX".toList ∧
      mixedTree.resolve "../lists/All.BFX".toList =
        .ok (.plain (Text.Utf8.encode (String.ofList mixedText))) ∧
      Lists ["../more//./m.bfx".toList, "/x/y.py".toList] (String.ofList mixedText).toList ∧
      gather mixedTree ["../lists/All.BFX".toList] =
        .ok ["/more/m.bfx".toList, "/x/y.py".toList]) ∧
      gather mixedTree ["e.py".toList] = .ok ["/home/e.py".toList] ∧
      ¬ Text.EndsInLetters "/home/e.py".toList ∧
      gather mixedTree ["/home/e.py".toList] = .ok ["/home/e.py".toList] := by
  obtain ⟨lists, -, -, modules, again⟩ := gather_tells mixedTree
  constructor
  · have ending : Text.EndsInLetters "../lists/All.BFX".toList :=
      ⟨"../lists/All".toList, 'B', 'F', 'X', by decide, by decide, by decide, by decide⟩
    have found : mixedTree.resolve "../lists/All.BFX".toList =
        .ok (.plain (Text.Utf8.encode (String.ofList mixedText))) := by rfl
    have listed : Lists ["../more//./m.bfx".toList, "/x/y.py".toList]
        (String.ofList mixedText).toList :=
      String.toList_ofList.symm ▸ mixedText_lists
    refine ⟨ending, found, listed, ?_⟩
    obtain ⟨lead, place, name, isRoot, names, isName, spelled, gathered, -⟩ :=
      lists ending found listed
    have all : ∀ part ∈ place ++ [name], Path.IsName part :=
      List.forall_mem_append.mpr ⟨names, by simpa using isName⟩
    have first : Path.IsName "lists".toList := ⟨by decide, by decide, by decide, by decide⟩
    have second : Path.IsName "All.BFX".toList := ⟨by decide, by decide, by decide, by decide⟩
    have parts : ∀ part ∈ ["lists".toList, "All.BFX".toList], Path.IsName part :=
      List.forall_mem_cons.mpr ⟨first, List.forall_mem_singleton.mpr second⟩
    have concrete : mixedTree.absolute "../lists/All.BFX".toList =
        Path.spell ['/'] ["lists".toList, "All.BFX".toList] := by rfl
    obtain ⟨rfl, places⟩ := Path.spell_inj isRoot all (.inl rfl) parts (spelled.symm.trans concrete)
    obtain rfl : place = ["lists".toList] := List.append_inj_left' places rfl
    exact gathered
  · have here : ¬ Text.EndsInLetters "e.py".toList := fun ending =>
      absurd (isList_iff.mpr ending) (by decide)
    have there : ¬ Text.EndsInLetters "/home/e.py".toList := fun ending =>
      absurd (isList_iff.mpr ending) (by decide)
    have gathered : gather mixedTree ["e.py".toList] = .ok ["/home/e.py".toList] := modules _ here
    exact ⟨gathered, there, again _ _ gathered (List.forall_mem_singleton.mpr there)⟩

end ExtensionList

end TapeLang
