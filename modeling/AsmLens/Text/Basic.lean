namespace AsmLens

/-- A text is its characters in order, so offsets and lengths count characters. -/
abbrev Text := List Char

instance : Coe String Text := ⟨String.toList⟩

namespace Text

/-- The decimal digits of a number, without leading zeros. -/
def ofNat (number : Nat) : Text :=
  Nat.toDigits 10 number

def ofInt : Int → Text
  | .ofNat magnitude => ofNat magnitude
  | .negSucc magnitude => '-' :: ofNat (magnitude + 1)

def ofBool (value : Bool) : Text :=
  if value then "True" else "False"

/-- The pieces between the separators; there is one more piece than there are separators. -/
def cut (separator : Char) : Text → List Text
  | [] => [[]]
  | c :: rest =>
      if c = separator then
        [] :: cut separator rest
      else
        match cut separator rest with
        | [] => [[c]]
        | piece :: pieces => (c :: piece) :: pieces

/-- The texts in order with the separator between neighbours. -/
def join (separator : Text) (pieces : List Text) : Text :=
  separator.intercalate pieces

/-- Whether a text comes before another one, or is the same, in the order of their characters. -/
def precedes : Text → Text → Bool
  | [], _ => true
  | _ :: _, [] => false
  | c :: rest, d :: other =>
      if c = d then precedes rest other else c.toNat < d.toNat

@[simp]
theorem cut_nil (separator : Char) : cut separator [] = [[]] :=
  rfl

theorem cut_ne_nil (separator : Char) (text : Text) : cut separator text ≠ [] := by
  cases text with
  | nil => simp
  | cons c rest =>
      rw [cut]
      split
      · simp
      · split <;> simp

theorem cut_cons_separator (separator : Char) (rest : Text) :
    cut separator (separator :: rest) = [] :: cut separator rest := by
  simp [cut]

theorem cut_cons_of_ne {separator c : Char} (hne : c ≠ separator) {rest piece : Text}
    {pieces : List Text} (hrest : cut separator rest = piece :: pieces) :
    cut separator (c :: rest) = (c :: piece) :: pieces := by
  simp [cut, hne, hrest]

@[simp]
theorem join_nil (separator : Text) : join separator [] = [] :=
  rfl

@[simp]
theorem join_singleton (separator piece : Text) : join separator [piece] = piece := by
  simp [join, List.intercalate]

@[simp]
theorem join_cons_cons (separator first second : Text) (pieces : List Text) :
    join separator (first :: second :: pieces) =
      first ++ separator ++ join separator (second :: pieces) := by
  simp [join, List.intercalate]

/-- Putting the separators back gives the text that was cut. -/
theorem join_cut (separator : Char) (text : Text) :
    join [separator] (cut separator text) = text := by
  induction text with
  | nil => simp
  | cons c rest ih =>
      cases hrest : cut separator rest with
      | nil => exact absurd hrest (cut_ne_nil separator rest)
      | cons piece pieces =>
          rw [hrest] at ih
          by_cases heq : c = separator
          · rw [heq, cut_cons_separator, hrest, join_cons_cons, ih]
            rfl
          · rw [cut_cons_of_ne heq hrest]
            cases pieces with
            | nil => simpa using ih
            | cons second pieces => simpa using ih

theorem cut_of_not_mem {separator : Char} {text : Text} (hfree : separator ∉ text) :
    cut separator text = [text] := by
  induction text with
  | nil => rfl
  | cons c rest ih =>
      have hne := List.ne_of_not_mem_cons hfree
      exact cut_cons_of_ne hne.symm (ih (List.not_mem_of_not_mem_cons hfree))

theorem cut_append_separator {separator : Char} {piece : Text} (hfree : separator ∉ piece)
    (rest : Text) : cut separator (piece ++ separator :: rest) = piece :: cut separator rest := by
  induction piece with
  | nil => exact cut_cons_separator separator rest
  | cons c piece ih =>
      have hne := List.ne_of_not_mem_cons hfree
      exact cut_cons_of_ne hne.symm (ih (List.not_mem_of_not_mem_cons hfree))

/-- Pieces without separators are found again. -/
theorem cut_join {separator : Char} {pieces : List Text} (hne : pieces ≠ [])
    (hfree : ∀ piece ∈ pieces, separator ∉ piece) :
    cut separator (join [separator] pieces) = pieces := by
  induction pieces with
  | nil => contradiction
  | cons piece pieces ih =>
      obtain ⟨hpiece, hpieces⟩ := List.forall_mem_cons.mp hfree
      cases pieces with
      | nil => rw [join_singleton, cut_of_not_mem hpiece]
      | cons second pieces =>
          rw [join_cons_cons, List.append_assoc, List.singleton_append,
            cut_append_separator hpiece, ih (List.cons_ne_nil _ _) hpieces]

theorem not_mem_of_mem_cut {separator : Char} {text piece : Text}
    (hpiece : piece ∈ cut separator text) : separator ∉ piece := by
  induction text generalizing piece with
  | nil =>
      rw [cut_nil, List.mem_singleton] at hpiece
      simp [hpiece]
  | cons c rest ih =>
      by_cases heq : c = separator
      · subst heq
        rw [cut_cons_separator, List.mem_cons] at hpiece
        rcases hpiece with rfl | hpiece
        · simp
        · exact ih hpiece
      · cases hrest : cut separator rest with
        | nil => exact absurd hrest (cut_ne_nil separator rest)
        | cons first pieces =>
            rw [hrest] at ih
            rw [cut_cons_of_ne heq hrest, List.mem_cons] at hpiece
            rcases hpiece with rfl | hpiece
            · exact List.not_mem_cons_of_ne_of_not_mem (Ne.symm heq) (ih List.mem_cons_self)
            · exact ih (List.mem_cons_of_mem _ hpiece)

end Text

end AsmLens
