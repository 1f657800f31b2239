import AsmLens.Text.Basic

namespace AsmLens.Text

/-- Every carriage return, with a line feed after it or not, becomes one line feed. -/
def unifyNewlines : Text → Text
  | [] => []
  | '\r' :: '\n' :: rest => '\n' :: unifyNewlines rest
  | '\r' :: rest => '\n' :: unifyNewlines rest
  | c :: rest => c :: unifyNewlines rest

/-- The text without the line feed that closes it, if one does. -/
def dropFinalNewline : Text → Text
  | [] => []
  | ['\n'] => []
  | c :: rest => c :: dropFinalNewline rest

theorem return_not_mem_unifyNewlines (text : Text) : '\r' ∉ text.unifyNewlines := by
  fun_induction unifyNewlines text with
  | case1 => simp
  | case2 rest ih => simpa using ih
  | case3 rest _ ih => simpa using ih
  | case4 c rest _ hne ih => simpa [ih] using fun heq => hne heq.symm

theorem dropFinalNewline_cons {c : Char} {rest : Text} (hrest : c = '\n' → rest ≠ []) :
    dropFinalNewline (c :: rest) = c :: rest.dropFinalNewline := by
  rw [dropFinalNewline]
  exact fun hc hnil => hrest hc hnil

theorem dropFinalNewline_concat (text : Text) : dropFinalNewline (text ++ ['\n']) = text := by
  induction text with
  | nil => rfl
  | cons c rest ih =>
      have hrest : rest ++ ['\n'] ≠ [] := List.append_ne_nil_of_right_ne_nil rest (List.cons_ne_nil _ _)
      rw [List.cons_append, dropFinalNewline_cons fun _ => hrest, ih]

theorem dropFinalNewline_of_getLast? {text : Text} (hlast : text.getLast? ≠ some '\n') :
    text.dropFinalNewline = text := by
  induction text with
  | nil => rfl
  | cons c rest ih =>
      have hrest : c = '\n' → rest ≠ [] := by
        rintro rfl rfl
        exact hlast rfl
      rw [dropFinalNewline_cons hrest]
      cases rest with
      | nil => rfl
      | cons d rest =>
          rw [List.getLast?_cons_cons] at hlast
          rw [ih hlast]

/-- Nothing but a line feed at the end is lost. -/
theorem eq_or_eq_dropFinalNewline (text : Text) :
    text = text.dropFinalNewline ∨ text = text.dropFinalNewline ++ ['\n'] := by
  by_cases hlast : text.getLast? = some '\n'
  · obtain ⟨front, rfl⟩ := List.getLast?_eq_some_iff.mp hlast
    rw [dropFinalNewline_concat]
    exact .inr rfl
  · rw [dropFinalNewline_of_getLast? hlast]
    exact .inl rfl

end AsmLens.Text
