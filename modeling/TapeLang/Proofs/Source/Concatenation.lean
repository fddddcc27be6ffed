import Mathlib.Data.List.TakeWhile
import TapeLang.Proofs.Source.Matching

/-! Loading a text that is put together from two.

Behind a text that has a program, another text is read as it is read alone. Its jumps are shifted by
the length of the first program, and its places are moved behind the first text. A closer that runs
ahead in the first text is reported whatever follows it. -/

set_option autoImplicit false

namespace TapeLang

def Instruction.shift (n : Nat) (inst : Instruction) : Instruction :=
  { inst with target := inst.target.map (· + ↑n) }

/-- A location with a text in front of its own one. Only on the first line does the column move. -/
def SourceLocation.behind (before : List Char) : SourceLocation → SourceLocation
  | ⟨file, line, column, symbol⟩ =>
    ⟨file, line + ↑(before.count '\n'),
      if line = 1 then column + ↑(before.reverse.takeWhile (· ≠ '\n')).length else column, symbol⟩

def ParseError.behind (before : List Char) : ParseError → ParseError
  | unmatchedClose location => unmatchedClose (location.behind before)
  | unmatchedOpen location unclosed => unmatchedOpen (location.behind before) unclosed

/-- A program, and behind it that of a text which comes after `before`. -/
def Program.followedBy (first : Program) (before : List Char) (second : Program) : Program where
  code := first.code ++ second.code.map (·.shift first.size)
  locations := first.locations ++ second.locations.map (·.behind before)
  filename := first.filename

/-! ## Blocks -/

namespace Block

def append : Block → Block → Block
  | done, second => second
  | command c rest, second => command c (rest.append second)
  | loop body rest, second => loop body (rest.append second)

theorem Reads.append {text more : List Char} {first second : Block} (reads : first.Reads text)
    (goesOn : second.Reads more) : (first.append second).Reads (text ++ more) := by
  induction reads with
  | nil => exact goesOn
  | comment silent _ ih => exact .comment silent ih
  | command c _ ih => exact .command c ih
  | loop inner _ _ ih =>
    rw [List.append_assoc, List.cons_append]
    exact .loop inner ih

theorem Reads.balanced {text : List Char} {block : Block} (reads : block.Reads text) :
    Balanced '[' ']' text := by
  induction reads with
  | nil => exact .nil
  | comment silent _ ih =>
    obtain ⟨notOpener, notCloser⟩ := comment_ne_bracket silent
    exact (Balanced.singleton notOpener notCloser).append_iff.mpr ih
  | command c _ ih =>
    obtain ⟨notOpener, notCloser⟩ := c.symbol_ne_bracket
    exact (Balanced.singleton notOpener notCloser).append_iff.mpr ih
  | loop _ _ bodyIH restIH => exact balanced_enclose_append (by decide) bodyIH restIH

-- Each index that the code mentions counts from its start.
theorem code_shift (block : Block) (start n : Nat) :
    block.code (start + n) = (block.code start).map (·.shift n) := by
  induction block generalizing start with
  | done => rfl
  | command c rest ih =>
    rw [code, Nat.add_right_comm, ih]
    rfl
  | loop body rest bodyIH restIH =>
    have closing : start + n + body.size + 1 = start + body.size + 1 + n := by omega
    have after : start + n + body.size + 2 = start + body.size + 2 + n := by omega
    have inside : start + n + 1 = start + 1 + n := by omega
    simp only [code, closing, after, inside, bodyIH, restIH, List.map_append, List.map_cons,
      Instruction.shift, Option.map_some, Int.natCast_add]

theorem code_append (first second : Block) (start : Nat) :
    (first.append second).code start =
      first.code start ++ second.code (start + first.size) := by
  induction first generalizing start with
  | done => rfl
  | command c rest ih =>
    have after : start + 1 + rest.size = start + (rest.size + 1) := by omega
    simp only [append, code, ih, size, after, List.cons_append]
  | loop body rest _ ih =>
    have after : start + body.size + 2 + rest.size = start + (body.size + rest.size + 2) := by omega
    simp only [append, code, ih, size, after, List.cons_append, List.append_assoc]

theorem ops_append (first second : Block) : (first.append second).ops = first.ops ++ second.ops := by
  rw [← map_op_code _ 0, code_append, List.map_append, map_op_code, map_op_code]

end Block

/-! ## Places -/

/-- The lines before a character are those of both texts. Its column reaches back into the first text
if the second has no newline before it. -/
theorem locationAfter_append (filename : String) (first before : List Char) (c : Char) :
    locationAfter filename (first ++ before) c = (locationAfter filename before c).behind first := by
  have line : ((1 + (first ++ before).count '\n' : Nat) : Int) =
      ↑(1 + before.count '\n') + ↑(first.count '\n') := by
    rw [List.count_append]
    omega
  show (⟨filename, _, _, c.toString⟩ : SourceLocation) =
    ⟨filename, ↑(1 + before.count '\n') + ↑(first.count '\n'),
      if ((1 + before.count '\n' : Nat) : Int) = 1 then _ else _, c.toString⟩
  simp only [line, List.reverse_append, List.takeWhile_append, SourceLocation.mk.injEq, true_and,
    and_true]
  by_cases newline : '\n' ∈ before
  · have later : before.count '\n' ≠ 0 := fun none => List.count_eq_zero.mp none newline
    have short : (before.reverse.takeWhile (· ≠ '\n')).length ≠ before.reverse.length := by
      intro whole
      have all := List.takeWhile_eq_self_iff.mp
        ((List.takeWhile_prefix (· ≠ '\n')).eq_of_length whole)
      simpa using all '\n' (List.mem_reverse.mpr newline)
    rw [if_neg short, if_neg (by omega)]
  · have firstLine : before.count '\n' = 0 := List.count_eq_zero.mpr newline
    have whole : before.reverse.takeWhile (· ≠ '\n') = before.reverse := by
      refine List.takeWhile_eq_self_iff.mpr fun d member => decide_eq_true ?_
      rintro rfl
      exact newline (List.mem_reverse.mp member)
    rw [whole, if_pos rfl, if_pos (by omega), List.length_append]
    omega

theorem commandLocations_behind (filename : String) (first before text : List Char) :
    (({} : Cursor).passAll (first ++ before)).commandLocations filename text =
      ((({} : Cursor).passAll before).commandLocations filename text).map (·.behind first) := by
  induction text generalizing before with
  | nil => rfl
  | cons c text ih =>
    have pass (before : List Char) : (({} : Cursor).passAll before).pass c =
        ({} : Cursor).passAll (before ++ [c]) := by simp
    have rest := ih (before ++ [c])
    rw [← List.append_assoc] at rest
    cases means : Opcode.ofSymbol? c with
    | none =>
      rw [Cursor.commandLocations_comment means, Cursor.commandLocations_comment means, pass, pass,
        rest]
    | some op =>
      have command : (Opcode.ofSymbol? c).isSome := by rw [means]; rfl
      rw [Cursor.commandLocations_command command, Cursor.commandLocations_command command, pass,
        pass, rest, Cursor.locate_passAll, Cursor.locate_passAll, locationAfter_append,
        List.map_cons]

/-! ## Texts -/

/-- The ways in which loading can end: a text is read as a block, or cut at a closer that runs ahead or
at the last opener that stays open. -/
inductive Loads (filename : String) : List Char → Except ParseError Program → Prop where
  | block {text : List Char} {block : Block} : block.Reads text →
      Loads filename text (.ok ⟨(block.code 0).toArray,
        (({} : Cursor).commandLocations filename text).toArray, filename⟩)
  | excess {before after : List Char} : Balanced '[' ']' before →
      Loads filename (before ++ ']' :: after)
        (.error (.unmatchedClose (locationAfter filename before ']')))
  | unclosed {before after : List Char} : NoExcess '[' ']' before → Balanced '[' ']' after →
      Loads filename (before ++ '[' :: after)
        (.error (.unmatchedOpen (locationAfter filename before '[')
          ((before ++ '[' :: after).count '[' - (before ++ '[' :: after).count ']')))

theorem loads_load (text filename : String) : Loads filename text.toList (load text filename) := by
  by_cases fits : NoExcess '[' ']' text.toList
  · rcases Nat.lt_or_eq_of_le fits.count_le with more | total
    · obtain ⟨before, after, split, balanced⟩ := exists_last_open more
      rw [split] at fits
      rw [load_of_open split fits.of_append balanced, split]
      exact .unclosed fits.of_append balanced
    · obtain ⟨block, reads⟩ := Block.exists_reads ⟨fits, total.symm⟩
      rw [load_of_reads reads]
      exact .block reads
  · obtain ⟨before, after, split, balanced⟩ := hasCloser_of_not_noExcess fits
    rw [load_of_excess split balanced, split]
    exact .excess balanced

theorem Loads.load_eq {text filename : String} {result : Except ParseError Program}
    (loads : Loads filename text.toList result) : load text filename = result := by
  generalize same : text.toList = chars at loads
  cases loads with
  | block reads =>
    subst same
    exact load_of_reads reads
  | excess balanced => exact load_of_excess same balanced
  | unclosed fits balanced =>
    rw [← same]
    exact load_of_open same fits balanced

/-- Behind a text with balanced brackets the brackets of another one are as they are alone. -/
theorem NoExcess.behind {first before : List Char} (balanced : Balanced '[' ']' first)
    (fits : NoExcess '[' ']' before) : NoExcess '[' ']' (first ++ before) := by
  rintro start ⟨rest, split⟩
  rcases List.append_eq_append_iff.mp split with ⟨more, inside, _⟩ | ⟨more, rfl, inside⟩
  · exact balanced.noExcess start ⟨more, inside.symm⟩
  · have tail := fits more ⟨rest, inside.symm⟩
    simp only [List.count_append, balanced.total]
    omega

/-- What loading does with a text it does with the same text behind one that has a program. -/
theorem Loads.behind {filename : String} {first text : List Char} {p : Program}
    (loaded : Loads filename first (.ok p)) {result : Except ParseError Program}
    (loads : Loads filename text result) :
    Loads filename (first ++ text)
      ((result.map (p.followedBy first)).mapError (.behind first)) := by
  cases loaded with
  | @block _ block reads =>
    have balanced := reads.balanced
    cases loads with
    | @block _ second goesOn =>
      have code : ((block.append second).code 0).toArray =
          (block.code 0).toArray ++ (second.code 0).toArray.map (·.shift (block.code 0).length) := by
        rw [Block.code_append, Block.code_shift, Block.length_code]
        simp
      have locations : (({} : Cursor).commandLocations filename (first ++ text)).toArray =
          (({} : Cursor).commandLocations filename first).toArray ++
            (({} : Cursor).commandLocations filename text).toArray.map (·.behind first) := by
        have moved := commandLocations_behind filename first [] text
        rw [List.append_nil, Cursor.passAll_nil] at moved
        rw [Cursor.commandLocations_append, moved]
        simp
      have whole := @Loads.block filename _ _ (reads.append goesOn)
      rw [code, locations] at whole
      exact whole
    | @excess before after inner =>
      have cut := @Loads.excess filename _ after (balanced.append_iff.mpr inner)
      rw [locationAfter_append, List.append_assoc] at cut
      exact cut
    | @unclosed before after fits inner =>
      have cut := @Loads.unclosed filename _ after (fits.behind balanced) inner
      -- As many brackets are opened as closed in front.
      have unclosed : (first ++ (before ++ '[' :: after)).count '[' -
          (first ++ (before ++ '[' :: after)).count ']' =
            (before ++ '[' :: after).count '[' - (before ++ '[' :: after).count ']' := by
        have total := balanced.total
        simp only [List.count_append]
        omega
      rw [locationAfter_append, List.append_assoc, unclosed] at cut
      exact cut

/-- Loading a text that begins with another one. If the first text has a program, the whole has one
exactly if the rest has: both programs behind each other, with the jumps and the locations of the
second one moved. An error of the rest is that of the whole, at the place to which the rest has moved.
A closer that runs ahead in the first text is the error of the whole. -/
theorem load_append (text more filename : String) :
    (∀ p, load text filename = .ok p →
      ((∃ whole, load (text ++ more) filename = .ok whole) ↔
        ∃ q, load more filename = .ok q) ∧
      (∀ q, load more filename = .ok q →
        load (text ++ more) filename = .ok (p.followedBy text.toList q)) ∧
      ∀ error, load more filename = .error error →
        load (text ++ more) filename = .error (error.behind text.toList)) ∧
    ∀ error, load text filename = .error error → error.kind = "UnmatchedClose" →
      load (text ++ more) filename = .error error := by
  constructor
  · intro p loaded
    have first := loads_load text filename
    rw [loaded] at first
    have whole : load (text ++ more) filename = ((load more filename).map
        (p.followedBy text.toList)).mapError (.behind text.toList) := by
      refine Loads.load_eq ?_
      rw [String.toList_append]
      exact first.behind (loads_load more filename)
    rw [whole]
    cases load more filename with
    | ok q => simp [Except.map, Except.mapError]
    | error error => simp [Except.map, Except.mapError]
  · intro error failed kind
    have first := loads_load text filename
    rw [failed] at first
    generalize same : text.toList = chars at first
    cases first with
    | @excess before after balanced =>
      have split : (text ++ more).toList = before ++ ']' :: (after ++ more.toList) := by
        rw [String.toList_append, same, List.append_assoc, List.cons_append]
      exact load_of_excess split balanced
    | unclosed => simp [ParseError.kind] at kind

/-- Behind the loop over two lines, a loop is on the second line, and an opener on the third one. -/
theorem load_append_echo :
    load ",[.\n,]" "echo" = .ok echo ∧
    load (",[.\n,]" ++ "[-]") "echo" = .ok { echo with
      code := echo.code ++
        #[⟨.jumpIfZero, some 7⟩, ⟨.decrement, none⟩, ⟨.jumpIfNonZero, some 5⟩]
      locations := echo.locations ++
        #[⟨"echo", 2, 3, "["⟩, ⟨"echo", 2, 4, "-"⟩, ⟨"echo", 2, 5, "]"⟩] } ∧
    load (",[.\n,]" ++ "\n[") "echo" = .error (.unmatchedOpen ⟨"echo", 3, 1, "["⟩ 1) ∧
    load ("]" ++ "[") "echo" = .error (.unmatchedClose ⟨"echo", 1, 1, "]"⟩) := by
  refine ⟨load_echo, ?_, ?_, ?_⟩
  · rw [((load_append ",[.\n,]" "[-]" "echo").1 echo load_echo).2.1
      ⟨#[⟨.jumpIfZero, some 2⟩, ⟨.decrement, none⟩, ⟨.jumpIfNonZero, some 0⟩],
        #[⟨"echo", 1, 1, "["⟩, ⟨"echo", 1, 2, "-"⟩, ⟨"echo", 1, 3, "]"⟩], "echo"⟩ rfl]
    simp [Program.followedBy, Program.size, Instruction.shift, SourceLocation.behind, echo]
  · exact ((load_append ",[.\n,]" "\n[" "echo").1 echo load_echo).2.2
      (.unmatchedOpen ⟨"echo", 2, 1, "["⟩ 1) rfl
  · exact (load_append "]" "[" "echo").2 (.unmatchedClose ⟨"echo", 1, 1, "]"⟩) rfl rfl

end TapeLang
