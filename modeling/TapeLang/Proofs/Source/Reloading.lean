import TapeLang.Proofs.Source.Diagnosis
import TapeLang.Source.Loader

/-! Loaders that are used again and again.

A load starts over, so it is that of a new loader for the same text and name, wherever the cursor was.
It leaves the cursor at the end of the text, or at a closer that runs ahead. From there on the cursor
passes one character at a time, and as long as the text stays it counts the lines and columns of what
it has passed. -/

set_option autoImplicit false

namespace TapeLang

/-! ## Cursors in a text -/

/-- A cursor within a text, with the line and the column that its index has there. -/
structure Cursor.Counts (text : List Char) (cursor : Cursor) : Prop where
  within : cursor.index ≤ text.length
  line : cursor.line = 1 + (text.take cursor.index).count '\n'
  column : cursor.column = 1 + ((text.take cursor.index).reverse.takeWhile (· ≠ '\n')).length

namespace Cursor

variable {text : List Char} {cursor : Cursor}

@[simp] theorem index_passAll (text : List Char) :
    (({} : Cursor).passAll text).index = text.length := by
  rw [passAll_eq]

theorem counts_passAll (before after : List Char) :
    (({} : Cursor).passAll before).Counts (before ++ after) := by
  rw [passAll_eq]
  refine ⟨?_, ?_, ?_⟩ <;> simp

theorem Counts.eq_passAll (counts : cursor.Counts text) :
    cursor = ({} : Cursor).passAll (text.take cursor.index) := by
  rw [passAll_eq, List.length_take, Nat.min_eq_left counts.within, ← counts.line, ← counts.column]

theorem Counts.pass (counts : cursor.Counts text) {c : Char}
    (next : text[cursor.index]? = some c) : (cursor.pass c).Counts text := by
  obtain ⟨inside, rfl⟩ := List.getElem?_eq_some_iff.mp next
  have passed : cursor.pass text[cursor.index] =
      ({} : Cursor).passAll (text.take (cursor.index + 1)) := by
    rw [List.take_succ_eq_append_getElem inside, passAll_append, ← counts.eq_passAll]
    rfl
  have counted := counts_passAll (text.take (cursor.index + 1)) (text.drop (cursor.index + 1))
  rwa [← passed, List.take_append_drop] at counted

end Cursor

/-! ## One load -/

/-- How loading ends, and where: at the end of the text, unless a closer runs ahead, and then there. -/
inductive EndsAt (filename : String) :
    List Char → Except ParseError Program → Cursor → Prop where
  | loaded {text : List Char} {program : Program} :
      EndsAt filename text (.ok program) (({} : Cursor).passAll text)
  | unclosed {text : List Char} {location : SourceLocation} {count : Nat} :
      EndsAt filename text (.error (.unmatchedOpen location count)) (({} : Cursor).passAll text)
  | excess {before after : List Char} : Balanced '[' ']' before →
      EndsAt filename (before ++ ']' :: after)
        (.error (.unmatchedClose (locationAfter filename before ']')))
        (({} : Cursor).passAll before)

namespace EndsAt

variable {filename : String} {text : List Char} {result : Except ParseError Program}
  {error : ParseError} {cursor : Cursor}

theorem counts (ends : EndsAt filename text result cursor) : cursor.Counts text := by
  cases ends with
  | loaded | unclosed => simpa using Cursor.counts_passAll text []
  | excess => exact Cursor.counts_passAll _ _

theorem index_of_ok {program : Program} (ends : EndsAt filename text (.ok program) cursor) :
    cursor.index = text.length := by
  cases ends
  simp

theorem index_of_open (ends : EndsAt filename text (.error error) cursor)
    (kind : error.kind = "UnmatchedOpen") : cursor.index = text.length := by
  cases ends with
  | unclosed => simp
  | excess => simp [ParseError.kind] at kind

theorem exists_excess (ends : EndsAt filename text (.error error) cursor)
    (kind : error.kind = "UnmatchedClose") :
    ∃ before after, text = before ++ ']' :: after ∧ NoExcess '[' ']' before ∧
      ¬ NoExcess '[' ']' (before ++ [']']) ∧
      error.location = locationAfter filename before ']' ∧ cursor.index = before.length := by
  cases ends with
  | unclosed => simp [ParseError.kind] at kind
  | @excess before after balanced =>
    refine ⟨before, after, rfl, balanced.noExcess, ?_, rfl, by simp⟩
    exact (hasCloser_iff (by decide)).mp ⟨before, [], rfl, balanced⟩

end EndsAt

namespace Loader

theorem load_answer (loader : Loader) :
    loader.load.1 = TapeLang.load loader.text loader.filename := by
  unfold load TapeLang.load
  cases scanText loader.text loader.filename <;> rfl

theorem load_loader (loader : Loader) :
    loader.load.2 = { loader with cursor := loader.load.2.cursor } := by
  unfold load
  cases scanText loader.text loader.filename <;> rfl

theorem endsAt_load (loader : Loader) :
    EndsAt loader.filename loader.text.toList loader.load.1 loader.load.2.cursor := by
  obtain ⟨text, filename, cursor⟩ := loader
  unfold load scanText
  by_cases fits : NoExcess '[' ']' text.toList
  · obtain ⟨last, whole, place, _⟩ := Scan.readAll_of_noExcess filename fits
    simp only [whole, bind, Except.bind, Scan.finish]
    cases last.openings with
    | nil => exact place ▸ .loaded
    | cons => exact place ▸ .unclosed
  · obtain ⟨before, after, split, balanced⟩ := hasCloser_of_not_noExcess fits
    simp only [readAll_of_excess split balanced, bind, Except.bind]
    rw [split]
    exact .excess balanced

def Answer.ofLoad : Except ParseError Program → Answer
  | .ok loaded => .program loaded
  | .error error => .notLoaded error

theorem ofLoad_eq_program {result : Except ParseError Program} {program : Program} :
    Answer.ofLoad result = .program program ↔ result = .ok program := by
  cases result <;> simp [Answer.ofLoad]

theorem ofLoad_eq_notLoaded {result : Except ParseError Program} {error : ParseError} :
    Answer.ofLoad result = .notLoaded error ↔ result = .error error := by
  cases result <;> simp [Answer.ofLoad]

/-! ## Sequences of requests -/

/-- The text of a loader after some requests: the last one that it was given. -/
def textAfter (text : String) (requests : List Request) : String :=
  requests.foldl (fun text request => match request with | .text new => new | _ => text) text

def filenameAfter (filename : String) (requests : List Request) : String :=
  requests.foldl
    (fun filename request => match request with | .filename new => new | _ => filename) filename

/-- Whether a load came after every text that was given. -/
def Settled (requests : List Request) : Prop :=
  ∀ before text after, requests = before ++ Request.text text :: after → Request.load ∈ after

theorem Settled.of_concat {requests : List Request} {request : Request} (other : request ≠ .load)
    (settled : Settled (requests ++ [request])) : Settled requests := by
  rintro before text after rfl
  have later := settled before text (after ++ [request]) (by simp)
  simpa [other.symm] using later

theorem not_settled_text {requests : List Request} {text : String} :
    ¬ Settled (requests ++ [.text text]) := by
  intro settled
  cases settled requests text [] rfl

namespace Desk

def serve (desk : Desk) (requests : List Request) : Desk :=
  requests.foldl (fun desk request => (desk.handle request).2) desk

@[simp] theorem serve_concat (desk : Desk) (requests : List Request) (request : Request) :
    desk.serve (requests ++ [request]) = ((desk.serve requests).handle request).2 := by
  simp [serve]

def forText (text filename : String) : Desk := { loader := { text, filename } }

theorem handle_load (desk : Desk) : (desk.handle .load).1 = .ofLoad desk.loader.load.1 ∧
    (desk.handle .load).2.loader = desk.loader.load.2 := by
  simp only [handle]
  rcases desk.loader.load with ⟨_ | program, loader⟩ <;> exact ⟨rfl, rfl⟩

theorem handle_advance {desk : Desk} {c : Char}
    (next : desk.loader.text.toList[desk.loader.cursor.index]? = some c) :
    desk.handle .advance =
      (.done, { desk with loader.cursor := desk.loader.cursor.pass c }) := by
  simp only [handle, advance, next]

theorem handle_advance_outside {desk : Desk}
    (outside : desk.loader.text.toList.length ≤ desk.loader.cursor.index) :
    desk.handle .advance = (.failed .textIndex, desk) := by
  simp only [handle, advance, List.getElem?_eq_none outside]

/-- Only requests for it change the text or the name. -/
theorem text_handle (desk : Desk) (request : Request) :
    (desk.handle request).2.loader.text = textAfter desk.loader.text [request] ∧
      (desk.handle request).2.loader.filename = filenameAfter desk.loader.filename [request] := by
  cases request with
  | load =>
    rw [(handle_load desk).2, load_loader]
    exact ⟨rfl, rfl⟩
  | text | filename => exact ⟨rfl, rfl⟩
  | advance =>
    simp only [handle, advance]
    split <;> rename_i found <;> split at found <;> cases found <;> exact ⟨rfl, rfl⟩
  | equal | locations =>
    simp only [handle]
    split <;> exact ⟨rfl, rfl⟩

/-- What does not give a new text keeps the cursor's line and column right; a load makes them right. -/
theorem counts_handle {desk : Desk} {request : Request} (other : ∀ text, request ≠ .text text)
    (counts : request = .load ∨ desk.loader.cursor.Counts desk.loader.text.toList) :
    (desk.handle request).2.loader.cursor.Counts (desk.handle request).2.loader.text.toList := by
  cases request with
  | load =>
    rw [(handle_load desk).2, load_loader]
    exact desk.loader.endsAt_load.counts
  | text text => exact absurd rfl (other text)
  | filename => exact counts.resolve_left nofun
  | advance =>
    have counts := counts.resolve_left nofun
    cases next : desk.loader.text.toList[desk.loader.cursor.index]? with
    | none =>
      rw [handle_advance_outside (List.getElem?_eq_none_iff.mp next)]
      exact counts
    | some c =>
      rw [handle_advance next]
      exact counts.pass next
  | equal | locations =>
    simp only [handle]
    split <;> exact counts.resolve_left nofun

theorem text_serve (desk : Desk) (requests : List Request) :
    (desk.serve requests).loader.text = textAfter desk.loader.text requests ∧
      (desk.serve requests).loader.filename = filenameAfter desk.loader.filename requests := by
  induction requests using List.reverseRecOn with
  | nil => exact ⟨rfl, rfl⟩
  | append_singleton requests request ih =>
    obtain ⟨text, filename⟩ := (desk.serve requests).text_handle request
    rw [serve_concat, text, filename, ih.1, ih.2]
    simp [textAfter, filenameAfter]

/-- The cursor of a new loader is right as long as every new text has been loaded. -/
theorem counts_serve (text filename : String) {requests : List Request}
    (settled : Settled requests) :
    ((forText text filename).serve requests).loader.cursor.Counts
      ((forText text filename).serve requests).loader.text.toList := by
  induction requests using List.reverseRecOn with
  | nil => exact Cursor.counts_passAll [] text.toList
  | append_singleton requests request ih =>
    rw [serve_concat]
    refine counts_handle ?_ ?_
    · rintro text rfl
      exact not_settled_text settled
    · by_cases load : request = .load
      · exact .inl load
      · exact .inr (ih (settled.of_concat load))

/-- What a desk does with its loader next, where `text` and `filename` are the loader's. -/
structure Reloads (text filename : String) (desk : Desk) : Prop where
  afresh : (desk.handle .load).1 = ((forText text filename).handle .load).1 ∧
    (desk.handle .load).2.loader = ((forText text filename).handle .load).2.loader
  answer : (desk.handle .load).1 = .ofLoad (TapeLang.load text filename)
  whole : ∀ program, (desk.handle .load).1 = .program program →
    (desk.handle .load).2.loader.cursor.index = text.toList.length
  unclosed : ∀ error, (desk.handle .load).1 = .notLoaded error → error.kind = "UnmatchedOpen" →
    (desk.handle .load).2.loader.cursor.index = text.toList.length
  excess : ∀ error, (desk.handle .load).1 = .notLoaded error → error.kind = "UnmatchedClose" →
    ∃ before after, text.toList = before ++ ']' :: after ∧ NoExcess '[' ']' before ∧
      ¬ NoExcess '[' ']' (before ++ [']']) ∧
      error.location = locationAfter filename before ']' ∧
      (desk.handle .load).2.loader.cursor.index = before.length
  advance : ∀ c, text.toList[desk.loader.cursor.index]? = some c →
    desk.handle .advance = (.done, { desk with loader.cursor := desk.loader.cursor.pass c })
  outside : text.toList.length ≤ desk.loader.cursor.index →
    ∃ failure, failure.name = "IndexError" ∧ desk.handle .advance = (.failed failure, desk)

theorem reloads (desk : Desk) : desk.Reloads desk.loader.text desk.loader.filename := by
  obtain ⟨answer, left⟩ := handle_load desk
  obtain ⟨fresh, leftFresh⟩ := handle_load (forText desk.loader.text desk.loader.filename)
  have ends := desk.loader.endsAt_load
  refine ⟨⟨answer.trans fresh.symm, left.trans leftFresh.symm⟩, ?_, ?_, ?_, ?_,
    fun c next => handle_advance next, fun outside => ⟨.textIndex, rfl, handle_advance_outside outside⟩⟩
  · rw [answer, load_answer]
  · intro program loaded
    rw [answer, ofLoad_eq_program] at loaded
    rw [loaded, ← left] at ends
    exact ends.index_of_ok
  · intro error failed kind
    rw [answer, ofLoad_eq_notLoaded] at failed
    rw [failed, ← left] at ends
    exact ends.index_of_open kind
  · intro error failed kind
    rw [answer, ofLoad_eq_notLoaded] at failed
    rw [failed, ← left] at ends
    exact ends.exists_excess kind

/-- After any requests, a loader loads as a new one does for the text and the name that it was last
given, from wherever its cursor is, and leaves the cursor at the end of the text or at the closer that
runs ahead. It passes one character at a time and nothing past the end. Its line and column are right
for its index, unless its text was replaced and has not been loaded since. -/
theorem serve_reloads (text filename : String) (requests : List Request) :
    ((forText text filename).serve requests).Reloads (textAfter text requests)
        (filenameAfter filename requests) ∧
      (Settled requests → ((forText text filename).serve requests).loader.cursor.Counts
        (textAfter text requests).toList) := by
  obtain ⟨ownText, ownName⟩ := text_serve (forText text filename) requests
  have reloads := ((forText text filename).serve requests).reloads
  have counts := @counts_serve text filename requests
  rw [ownText] at counts
  rw [ownText, ownName] at reloads
  exact ⟨reloads, counts⟩

-- The load stops at the closer on the second line, and the cursor passes it then.
theorem stopped_reloads :
    Settled [.text "\n]+", .load, .advance] ∧
      ((forText "+" "a").serve [.text "\n]+", .load, .advance]).loader.cursor = ⟨2, 2, 2⟩ ∧
      ((forText "+" "a").serve [.text "\n]+", .load, .advance]).Reloads "\n]+" "a" ∧
      Cursor.Counts "\n]+".toList ⟨2, 2, 2⟩ := by
  have settled : Settled [.text "\n]+", .load, .advance] := by
    rintro (_ | ⟨_, _ | ⟨_, _ | ⟨_, before⟩⟩⟩) text after same <;> simp at same
    simp [← same.2]
  have place : ((forText "+" "a").serve [.text "\n]+", .load, .advance]).loader.cursor =
      ⟨2, 2, 2⟩ := by rfl
  obtain ⟨reloads, counts⟩ := serve_reloads "+" "a" [.text "\n]+", .load, .advance]
  have counted := counts settled
  rw [place] at counted
  exact ⟨settled, place, reloads, counted⟩

end Desk

end Loader

end TapeLang
