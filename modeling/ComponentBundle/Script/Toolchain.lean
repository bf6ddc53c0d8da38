import ComponentBundle.Script.Lowering.Program

/-!
# Taking types out of scripts

A typed script is read, lowered to the language of 2015 and printed again. What does these three things
can be exchanged.
-/
namespace ComponentBundle.Script

/-- What reads, lowers and prints typed scripts. -/
structure Toolchain where
  Program : Type
  parse : Text → Except Failure Program
  /-- Takes the types out and lowers what is left; `preserve` tells that imports of values are kept even
  if they are not used. -/
  lower : (preserve : Bool) → Program → Except Failure Program
  print : Program → Text

def Toolchain.transpile (tools : Toolchain) (preserve : Bool) (text : Text) : Except Failure Text := do
  let found ← tools.parse text
  let lowered ← tools.lower preserve found
  return tools.print lowered

abbrev Toolchain.standard : Toolchain where
  Program := Script.Program
  parse := Script.parse true
  lower := Lowering.program
  print lowered := lowered.text.toList

/-- Takes the types out of a script with the standard tools. -/
def lower (preserve : Bool) (text : Text) : Except Failure Text :=
  Toolchain.standard.transpile preserve text

end ComponentBundle.Script
