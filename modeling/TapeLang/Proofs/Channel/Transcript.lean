import TapeLang.Channel.Writer

/-! Writers with a transcript of the cells that they have taken.

A transcript is kept beside a writer and changes nothing about it. What a text sink has printed is
read off its transcript. -/

set_option autoImplicit false

namespace TapeLang

/-- A writer, and the cells that it has been given and has not refused. -/
structure Transcript (ω : Type) where
  inner : ω
  cells : List Int := []

def Codec.text (codec : Codec) (cells : List Int) : List Nat :=
  (cells.filterMap fun cell => (codec.render cell).toOption).flatten

namespace Transcript

section
variable {ω : Type} [Writer ω]

def write (transcript : Transcript ω) (cell : Int) : Except Failure Unit × Transcript ω :=
  match Writer.write transcript.inner cell with
  | (.ok (), inner) => (.ok (), ⟨inner, transcript.cells ++ [cell]⟩)
  | (.error failure, inner) => (.error failure, ⟨inner, transcript.cells⟩)

instance : Writer (Transcript ω) := ⟨write⟩

end

/-- A sink has printed nothing but the cells of its transcript, each of which can be rendered. -/
structure Prints (codec : Codec) (transcript : Transcript TextSink) : Prop where
  renders : transcript.inner.codec = codec
  rendered : ∀ cell ∈ transcript.cells, ∃ text, codec.render cell = .ok text
  text : transcript.inner.text.toList = codec.text transcript.cells

theorem Prints.write {codec : Codec} {transcript : Transcript TextSink}
    (prints : transcript.Prints codec) (cell : Int) :
    (Writer.write transcript cell).2.Prints codec := by
  obtain ⟨⟨_, flushing, text, flushes⟩, cells⟩ := transcript
  obtain ⟨rfl, rendered, printed⟩ := prints
  dsimp only at rendered printed
  simp only [Writer.write, Transcript.write, TextSink.write]
  rename_i codec
  cases found : codec.render cell with
  | error failure => exact ⟨rfl, rendered, printed⟩
  | ok more =>
    refine ⟨rfl, ?_, ?_⟩
    · intro other member
      rcases List.mem_append.mp member with before | last
      · exact rendered other before
      · rw [List.mem_singleton.mp last]
        exact ⟨more, found⟩
    · simp [Codec.text, printed, found, Except.toOption, List.filterMap_append]

end Transcript

end TapeLang
