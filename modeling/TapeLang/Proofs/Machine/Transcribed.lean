import TapeLang.Proofs.Channel.Transcript
import TapeLang.Proofs.Machine.Hooked
import TapeLang.Proofs.Machine.Recast

/-! Machines that keep a transcript of what they write.

A transcript changes nothing about a run. It shows what has been written in the loop and what handlers
have written after the error that ended it. -/

set_option autoImplicit false

namespace TapeLang

namespace Machine

variable {ρ ω : Type} [Reader ρ] [Writer ω]

section
variable {P : ω → Prop} (kept : ∀ writer cell, P writer → P (Writer.write writer cell).2)
  {m : Machine ρ ω} {fuel : Nat}
include kept

end

/-! ## After an error -/

section
variable {m : Machine ρ ω} {fuel : Nat}

end

end Machine

end TapeLang
