import AsmLens.Compilation.Basic
import AsmLens.View.Plain
import AsmLens.View.Styled

namespace AsmLens.View

def ruleWidth : Nat := 80

def dashes (count : Nat) : Text :=
  List.replicate count '-'

/-- A rule with a title in its middle; where the sides cannot be equal the right one is longer. -/
def titledRule (title : Text) : List Span :=
  let room := ruleWidth - (title.cells + 2)
  [⟨.alarm, dashes (room / 2) ++ " "⟩, ⟨.none, title⟩, ⟨.alarm, " " ++ dashes (room - room / 2)⟩]

def plainRule : List Span :=
  [⟨.alarm, dashes ruleWidth⟩]

/-- What a failed compiler has written, as it is, between two rules, and then why it failed. -/
def diagnostics (compilation : Compilation) : Text :=
  (titledRule "compiler output").flatMap Span.render ++ "\n" ++
    closeLine compilation.output ++
    plainRule.flatMap Span.render ++ "\n" ++
    compilation.failureMessage ++ "\n"

end AsmLens.View
