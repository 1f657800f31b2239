import AsmLens.Json.Reader
import Mathlib.Algebra.Group.Nat.Defs
import Mathlib.Tactic.SplitIfs

/-!
# Values of JSON are read back from their text

Each character is read back from its escape, each number from its digits, and each value from its text
over several lines, whatever comes after it as long as that does not begin with a digit. All that is
written is ASCII.
-/

namespace AsmLens.Json

/-- What holds of an array when it holds of its items, and of an object when it holds of the values of
its fields, holds of every value. -/
@[elab_as_elim]
theorem induct {motive : Json → Prop} (null : motive .null) (bool : ∀ value, motive (.bool value))
    (number : ∀ value, motive (.number value)) (text : ∀ value, motive (.text value))
    (array : ∀ items, (∀ item ∈ items, motive item) → motive (.array items))
    (object : ∀ fields, (∀ field ∈ fields, motive field.2) → motive (.object fields)) (value : Json) :
    motive value :=
  match value with
  | .null => null
  | .bool value => bool value
  | .number value => number value
  | .text value => text value
  | .array items => array items fun item _ => induct null bool number text array object item
  | .object fields => object fields fun field _ => induct null bool number text array object field.2
decreasing_by
  · decreasing_tactic
  · have hlt := List.sizeOf_lt_of_mem ‹field ∈ fields›
    obtain ⟨key, value⟩ := field
    simp only [Prod.mk.sizeOf_spec, Json.object.sizeOf_spec] at hlt ⊢
    omega

/-! ### Strings -/

theorem hexDigit?_hexDigit : ∀ digit < 16, hexDigit? (Text.hexDigit digit) = some digit := by
  decide

theorem unit?_hex (width number : Nat) : unit? (Text.hex width number) = some (number % 16 ^ width) := by
  induction width generalizing number with
  | zero => simp [unit?, Text.hex, Nat.mod_one]
  | succ width ih =>
      have hfront := ih (number / 16)
      have hdigit := hexDigit?_hexDigit (number % 16) (Nat.mod_lt _ (by decide))
      unfold unit? at hfront
      rw [unit?, Text.hex, List.foldlM_append, hfront]
      simp [hdigit, Nat.pow_succ', Nat.mod_mul, Nat.add_comm]

theorem readUnits_unitEscape {unit : Nat} (hunit : unit < 0x10000) (rest : Text) :
    readUnits (unitEscape unit ++ rest) = (readUnits rest).map fun read => (unit :: read.1, read.2) := by
  have hhex := unit?_hex 4 unit
  have hbound : 16 ^ 4 = 0x10000 := rfl
  rw [hbound, Nat.mod_eq_of_lt hunit] at hhex
  change ((unit? (Text.hex 4 unit)).bind fun unit =>
    (readUnits rest).bind fun read => some (unit :: read.1, read.2)) = _
  rw [hhex]
  cases readUnits rest <;> rfl

theorem readUnits_flatMap_unitEscape {units : List Nat} (hunits : ∀ unit ∈ units, unit < 0x10000)
    (rest : Text) :
    readUnits (units.flatMap unitEscape ++ rest) =
      (readUnits rest).map fun read => (units ++ read.1, read.2) := by
  induction units with
  | nil => simp
  | cons unit units ih =>
      obtain ⟨hunit, hmore⟩ := List.forall_mem_cons.mp hunits
      rw [List.flatMap_cons, List.append_assoc, readUnits_unitEscape hunit, ih hmore, Option.map_map]
      rfl

theorem lt_of_mem_unitsOf {c : Char} {unit : Nat} (hunit : unit ∈ Text.unitsOf c) : unit < 0x10000 := by
  have hlt := Text.toNat_lt c
  unfold Text.unitsOf at hunit
  split at hunit
  · rw [List.mem_singleton] at hunit
    omega
  · simp only [List.mem_cons, List.not_mem_nil, or_false] at hunit
    omega

/-- A letter after a backslash is read as the character it stands for. -/
theorem readUnits_escaped {letter c : Char} (hletter : letter ≠ 'u') (hescaped : escaped? letter = some c)
    (hplane : c.toNat < 0x10000) (rest : Text) :
    readUnits ('\\' :: letter :: rest) =
      (readUnits rest).map fun read => (Text.unitsOf c ++ read.1, read.2) := by
  rw [readUnits]
  · rw [hescaped, Text.unitsOf, if_pos hplane]
    cases readUnits rest <;> rfl
  · rintro first second third fourth more heq _
    exact hletter heq

/-- A character that needs no escape stands for itself. -/
theorem readUnits_plain {c : Char} (hquote : c ≠ '"') (hbackslash : c ≠ '\\') (hcontrol : 0x20 ≤ c.toNat)
    (rest : Text) :
    readUnits (c :: rest) = (readUnits rest).map fun read => (Text.unitsOf c ++ read.1, read.2) := by
  rw [readUnits]
  · rw [if_neg (by omega)]
    cases readUnits rest <;> rfl
  · exact fun heq => hquote heq
  · exact fun first second third fourth more heq _ => hbackslash heq
  · exact fun letter more heq _ => hbackslash heq

/-- Every character is read back from its escape. -/
theorem readUnits_escapeChar (c : Char) (rest : Text) :
    readUnits (escapeChar c ++ rest) =
      (readUnits rest).map fun read => (Text.unitsOf c ++ read.1, read.2) := by
  unfold escapeChar
  split_ifs with hquote hbackslash hfeed hreturn htab hform hback hplain
  · subst hquote; exact readUnits_escaped (by decide) rfl (by decide) rest
  · subst hbackslash; exact readUnits_escaped (by decide) rfl (by decide) rest
  · subst hfeed; exact readUnits_escaped (by decide) rfl (by decide) rest
  · subst hreturn; exact readUnits_escaped (by decide) rfl (by decide) rest
  · subst htab; exact readUnits_escaped (by decide) rfl (by decide) rest
  · subst hform; exact readUnits_escaped (by decide) rfl (by decide) rest
  · subst hback; exact readUnits_escaped (by decide) rfl (by decide) rest
  · exact readUnits_plain hquote hbackslash hplain.1 rest
  · exact readUnits_flatMap_unitEscape (fun _ hunit => lt_of_mem_unitsOf hunit) rest

theorem readUnits_flatMap_escapeChar (text rest : Text) :
    readUnits (text.flatMap escapeChar ++ '"' :: rest) = some (text.toUnits, rest) := by
  induction text with
  | nil => rfl
  | cons c text ih =>
      rw [List.flatMap_cons, List.append_assoc, readUnits_escapeChar, ih]
      rfl

theorem readText_flatMap_escapeChar (text rest : Text) :
    readText (text.flatMap escapeChar ++ '"' :: rest) = some (text, rest) := by
  rw [readText, readUnits_flatMap_escapeChar]
  simp [Text.ofUnits?_toUnits]

/-! ### Numbers -/

/-- A number that goes before such a text ends where the text begins. -/
def NoDigitHead (text : Text) : Prop :=
  ∀ c ∈ text.head?, c.isDigit = false

theorem takeWhile_isDigit_append {digits rest : Text} (hdigits : ∀ c ∈ digits, c.isDigit = true)
    (hrest : NoDigitHead rest) : (digits ++ rest).takeWhile Char.isDigit = digits := by
  rw [List.takeWhile_append_of_pos hdigits]
  cases rest with
  | nil => simp
  | cons c rest => simp [hrest c rfl]

theorem dropWhile_isDigit_append {digits rest : Text} (hdigits : ∀ c ∈ digits, c.isDigit = true)
    (hrest : NoDigitHead rest) : (digits ++ rest).dropWhile Char.isDigit = rest := by
  rw [List.dropWhile_append_of_pos hdigits]
  cases rest with
  | nil => rfl
  | cons c rest => simp [hrest c rfl]

theorem isDigit_of_mem_ofNat {number : Nat} {c : Char} (hc : c ∈ Text.ofNat number) : c.isDigit = true :=
  Nat.isDigit_of_mem_toDigits (by decide) (by decide) hc

theorem exists_ofNat_eq_cons (number : Nat) :
    ∃ c digits, Text.ofNat number = c :: digits ∧ c.isDigit = true := by
  obtain ⟨c, digits, hdigits⟩ : ∃ c digits, Text.ofNat number = c :: digits :=
    List.exists_cons_of_ne_nil Nat.toDigits_ne_nil
  have hc : c ∈ Text.ofNat number := hdigits ▸ List.mem_cons_self
  exact ⟨c, digits, hdigits, isDigit_of_mem_ofNat hc⟩

/-- Only zero is written with a zero in front. -/
theorem head?_ofNat_ne_zero {number : Nat} (hpositive : 0 < number) :
    (Text.ofNat number).head? ≠ some '0' := by
  induction number using Nat.strongRecOn with
  | ind number ih =>
      rw [Text.ofNat, Nat.toDigits_eq_if (by decide)]
      split
      · rename_i hlt
        have hdigits : ∀ digit < 10, 0 < digit → [digit.digitChar].head? ≠ some '0' := by decide
        exact hdigits number hlt hpositive
      · have hfront := ih (number / 10) (by omega) (by omega)
        obtain ⟨c, digits, hdigits, _⟩ := exists_ofNat_eq_cons (number / 10)
        rw [← Text.ofNat, hdigits]
        rwa [hdigits] at hfront

theorem readNat_ofNat (number : Nat) {rest : Text} (hrest : NoDigitHead rest) :
    readNat (Text.ofNat number ++ rest) = some (number, rest) := by
  have hdigits : ∀ c ∈ Text.ofNat number, c.isDigit = true := fun _ => isDigit_of_mem_ofNat
  have hvalue : (Text.ofNat number).foldl (fun value c => 10 * value + (c.toNat - '0'.toNat)) 0 =
      number := by
    rw [← Nat.ofDigitChars_eq_foldl]
    exact Nat.ofDigitChars_ten_toDigits
  unfold readNat
  rw [takeWhile_isDigit_append hdigits hrest, dropWhile_isDigit_append hdigits hrest]
  split
  · exact absurd ‹_› Nat.toDigits_ne_nil
  · rename_i second more hzero
    have hpositive : 0 < number := by
      rcases Nat.eq_zero_or_pos number with rfl | hpositive
      · rw [Text.ofNat, Nat.toDigits_zero] at hzero
        cases hzero
      · exact hpositive
    exact absurd (by rw [hzero]; rfl) (head?_ofNat_ne_zero hpositive)
  · rw [hvalue]

theorem readWord_ofInt (value : Int) {rest : Text} (hrest : NoDigitHead rest) :
    readWord (Text.ofInt value ++ rest) = some (.number value, rest) := by
  cases value with
  | ofNat magnitude =>
      have hread := readNat_ofNat magnitude hrest
      obtain ⟨c, digits, hdigits, hc⟩ := exists_ofNat_eq_cons magnitude
      change readWord (Text.ofNat magnitude ++ rest) = _
      rw [hdigits, List.cons_append] at hread ⊢
      unfold readWord
      split
      case h_5 => rw [hread]; rfl
      all_goals
        rename_i heq
        obtain ⟨rfl, _⟩ := List.cons.inj heq
        exact absurd hc (by decide)
  | negSucc magnitude =>
      change (readNat (Text.ofNat (magnitude + 1) ++ rest)).map
        (fun read => (Json.number (-Int.ofNat read.1), read.2)) = _
      rw [readNat_ofNat _ hrest]
      rfl

/-! ### Values over several lines -/

theorem noDigitHead_cons {c : Char} (hc : c.isDigit = false) (rest : Text) : NoDigitHead (c :: rest) := by
  rintro d ⟨⟩
  exact hc

theorem noDigitHead_lineBreak (depth : Nat) (rest : Text) : NoDigitHead (lineBreak depth ++ rest) :=
  noDigitHead_cons (by decide) _

theorem skipSpaces_lineBreak (depth : Nat) (rest : Text) :
    skipSpaces (lineBreak depth ++ rest) = skipSpaces rest := by
  have hspaces : ∀ c ∈ lineBreak depth, isSpace c = true := by
    intro c hc
    rcases List.mem_cons.mp hc with rfl | hc
    · decide
    · rw [List.eq_of_mem_replicate hc]
      decide
  exact List.dropWhile_append_of_pos hspaces

theorem skipSpaces_cons {c : Char} (hc : isSpace c = false) (rest : Text) :
    skipSpaces (c :: rest) = c :: rest := by
  simp [skipSpaces, hc]

/-- The characters with which a value can begin. -/
def beginsValue (c : Char) : Bool :=
  c.isDigit || ['"', '[', '\x7b', 'n', 't', 'f', '-'].contains c

theorem not_beginsValue {c : Char} (hc : c ∈ [' ', '\t', '\n', '\r', ']', '\x7d']) :
    beginsValue c = false := by
  simp only [List.mem_cons, List.not_mem_nil, or_false] at hc
  rcases hc with rfl | rfl | rfl | rfl | rfl | rfl <;> decide

theorem exists_render_eq_cons (depth : Nat) (value : Json) :
    ∃ c text, render depth value = c :: text ∧ beginsValue c = true := by
  cases value with
  | null => exact ⟨_, _, rfl, by decide⟩
  | bool value => cases value <;> exact ⟨_, _, rfl, by decide⟩
  | number value =>
      cases value with
      | ofNat magnitude =>
          obtain ⟨c, digits, hdigits, hc⟩ := exists_ofNat_eq_cons magnitude
          exact ⟨c, digits, hdigits, by simp [beginsValue, hc]⟩
      | negSucc magnitude => exact ⟨_, _, rfl, by decide⟩
  | text value => exact ⟨_, _, rfl, by decide⟩
  | array items => cases items <;> exact ⟨_, _, rfl, by decide⟩
  | object fields => cases fields <;> exact ⟨_, _, rfl, by decide⟩

theorem skipSpaces_render (depth : Nat) (value : Json) (rest : Text) :
    skipSpaces (render depth value ++ rest) = render depth value ++ rest := by
  obtain ⟨c, text, hrender, hc⟩ := exists_render_eq_cons depth value
  have hspace : isSpace c = false := by
    rw [Bool.eq_false_iff]
    intro hspace
    have hmem : c ∈ [' ', '\t', '\n', '\r', ']', '\x7d'] := by
      simp only [isSpace, Bool.or_eq_true, decide_eq_true_eq] at hspace
      rcases hspace with ((rfl | rfl) | rfl) | rfl <;> decide
    rw [not_beginsValue hmem] at hc
    contradiction
  rw [hrender, List.cons_append, skipSpaces_cons hspace]

theorem length_render_pos (depth : Nat) (value : Json) : 0 < (render depth value).length := by
  obtain ⟨c, text, hrender, _⟩ := exists_render_eq_cons depth value
  rw [hrender]
  exact Nat.succ_pos _

theorem skipSpaces_renderField (depth : Nat) (field : Text × Json) (rest : Text) :
    skipSpaces (renderField depth field ++ rest) = renderField depth field ++ rest := by
  obtain ⟨key, value⟩ := field
  rfl

theorem length_render_le_renderField (depth : Nat) (field : Text × Json) :
    (render depth field.2).length ≤ (renderField depth field).length := by
  obtain ⟨key, value⟩ := field
  simp [renderField]
  omega

/-- The value is read back from its text, at any indentation and before any other text that does not
begin with a digit. -/
def ReadsBack (value : Json) : Prop :=
  ∀ ⦃depth fuel : Nat⦄ ⦃input rest : Text⦄, skipSpaces input = render depth value ++ rest →
    (render depth value).length ≤ fuel → NoDigitHead rest → readValue fuel input = some (value, rest)

theorem readsBack_of_readWord {value : Json}
    (hfree : ∀ depth c, (render depth value).head? = some c → c ≠ '"' ∧ c ≠ '[' ∧ c ≠ '\x7b')
    (hread : ∀ depth rest, NoDigitHead rest → readWord (render depth value ++ rest) = some (value, rest)) :
    ReadsBack value := by
  intro depth fuel input rest hinput hfuel hrest
  have hword := hread depth rest hrest
  obtain ⟨c, text, hrender, _⟩ := exists_render_eq_cons depth value
  obtain ⟨hquote, hbracket, hbrace⟩ := hfree depth c (by rw [hrender]; rfl)
  cases fuel with
  | zero => simp [hrender] at hfuel
  | succ fuel =>
      rw [readValue, hinput]
      rw [hrender, List.cons_append] at hword ⊢
      split
      · exact absurd (List.cons.inj ‹_›).1 hquote
      · exact absurd (List.cons.inj ‹_›).1 hbracket
      · exact absurd (List.cons.inj ‹_›).1 hbrace
      · exact hword

theorem readsBack_null : ReadsBack .null :=
  readsBack_of_readWord (by rintro depth c ⟨⟩; decide) fun _ _ _ => rfl

theorem readsBack_bool (value : Bool) : ReadsBack (.bool value) := by
  cases value <;> exact readsBack_of_readWord (by rintro depth c ⟨⟩; decide) fun _ _ _ => rfl

theorem readsBack_number (value : Int) : ReadsBack (.number value) := by
  refine readsBack_of_readWord (fun depth c hc => ?_) fun depth rest hrest => readWord_ofInt value hrest
  cases value with
  | ofNat magnitude =>
      have hdigit : c.isDigit = true := isDigit_of_mem_ofNat (List.mem_of_head? hc)
      refine ⟨?_, ?_, ?_⟩ <;> rintro rfl <;> exact absurd hdigit (by decide)
  | negSucc magnitude =>
      cases hc
      decide

theorem readsBack_text (value : Text) : ReadsBack (.text value) := by
  intro depth fuel input rest hinput hfuel _
  cases fuel with
  | zero => simp [render, renderText] at hfuel
  | succ fuel =>
      rw [readValue, hinput, render, renderText, List.cons_append, List.append_assoc,
        List.singleton_append]
      simp only
      rw [readText_flatMap_escapeChar]
      rfl

/-- What follows an item and its text. -/
theorem readItems_item {item : Json} (hitem : ReadsBack item) {depth fuel : Nat} {input after : Text}
    (hinput : skipSpaces input = render depth item ++ after)
    (hfuel : (render depth item).length ≤ fuel) (hafter : NoDigitHead after) :
    readItems (fuel + 1) input =
      match skipSpaces after with
      | ',' :: rest => (readItems fuel rest).map fun read => (item :: read.1, read.2)
      | ']' :: rest => some ([item], rest)
      | _ => none := by
  rw [readItems, hitem hinput hfuel hafter]
  rfl

theorem readItems_renderItems {item : Json} {items : List Json} (hitem : ReadsBack item)
    (hitems : ∀ other ∈ items, ReadsBack other) {depth fuel : Nat} {input tail rest : Text}
    (hinput : skipSpaces input = render depth item ++ (renderItems depth items ++ tail))
    (hfuel : (render depth item).length + (renderItems depth items).length < fuel)
    (htail : NoDigitHead tail) (hclose : skipSpaces tail = ']' :: rest) :
    readItems fuel input = some (item :: items, rest) := by
  induction items generalizing item fuel input with
  | nil =>
      obtain ⟨fuel, rfl⟩ := Nat.exists_eq_add_one_of_ne_zero (Nat.ne_zero_of_lt hfuel)
      have hfirst : (render depth item).length ≤ fuel := by omega
      have hstep := readItems_item hitem hinput hfirst htail
      rw [renderItems, List.nil_append, hclose] at hstep
      exact hstep
  | cons next items ih =>
      obtain ⟨fuel, rfl⟩ := Nat.exists_eq_add_one_of_ne_zero (Nat.ne_zero_of_lt hfuel)
      obtain ⟨hnext, hmore⟩ := List.forall_mem_cons.mp hitems
      have hcomma : renderItems depth (next :: items) ++ tail =
          ',' :: (lineBreak depth ++ (render depth next ++ (renderItems depth items ++ tail))) := by
        simp [renderItems]
      have hlength : (renderItems depth (next :: items)).length =
          1 + (lineBreak depth).length + (render depth next).length + (renderItems depth items).length := by
        simp [renderItems]
        omega
      have hfirst : (render depth item).length ≤ fuel := by omega
      have hothers : (render depth next).length + (renderItems depth items).length < fuel := by
        have hpositive := length_render_pos depth item
        omega
      have hstep := readItems_item hitem hinput hfirst (hcomma ▸ noDigitHead_cons (by decide) _)
      have hnexts := ih hnext hmore
        ((skipSpaces_lineBreak depth _).trans (skipSpaces_render depth next _)) hothers
      rw [hcomma, skipSpaces_cons (by decide)] at hstep
      simp only [hnexts] at hstep
      exact hstep

theorem readsBack_array {items : List Json} (hitems : ∀ item ∈ items, ReadsBack item) :
    ReadsBack (.array items) := by
  intro depth fuel input rest hinput hfuel _
  cases items with
  | nil =>
      obtain ⟨fuel, rfl⟩ := Nat.exists_eq_add_one_of_ne_zero (Nat.ne_zero_of_lt hfuel)
      rw [readValue, hinput]
      rfl
  | cons item items =>
      obtain ⟨hitem, hmore⟩ := List.forall_mem_cons.mp hitems
      obtain ⟨fuel, rfl⟩ := Nat.exists_eq_add_one_of_ne_zero (Nat.ne_zero_of_lt hfuel)
      have hrender : render depth (.array (item :: items)) ++ rest =
          '[' :: (lineBreak (depth + 1) ++ (render (depth + 1) item ++
            (renderItems (depth + 1) items ++ (lineBreak depth ++ ']' :: rest)))) := by
        simp [render]
      have hlength : (render depth (.array (item :: items))).length =
          2 + (lineBreak (depth + 1)).length + (render (depth + 1) item).length +
            (renderItems (depth + 1) items).length + (lineBreak depth).length := by
        simp [render]
        omega
      have hspaces : ∀ after : Text, skipSpaces (lineBreak (depth + 1) ++ (render (depth + 1) item ++ after)) =
          render (depth + 1) item ++ after :=
        fun after => (skipSpaces_lineBreak _ _).trans (skipSpaces_render _ item after)
      have hfuels : (render (depth + 1) item).length + (renderItems (depth + 1) items).length < fuel := by
        omega
      have hread := readItems_renderItems hitem hmore (hspaces _) hfuels
        (noDigitHead_lineBreak depth (']' :: rest))
        ((skipSpaces_lineBreak depth _).trans (skipSpaces_cons (by decide) rest))
      rw [readValue, hinput, hrender]
      simp only
      rw [hspaces]
      obtain ⟨c, text, hcons, hc⟩ := exists_render_eq_cons (depth + 1) item
      rw [hcons] at hread ⊢
      split
      · rename_i heq
        obtain ⟨rfl, _⟩ := List.cons.inj heq
        exact absurd hc (by decide)
      · rw [hread]
        rfl

/-- What follows a field and its text. -/
theorem readFields_field {key : Text} {value : Json} (hvalue : ReadsBack value) {depth fuel : Nat}
    {input after : Text} (hinput : skipSpaces input = renderField depth (key, value) ++ after)
    (hfuel : (render depth value).length ≤ fuel) (hafter : NoDigitHead after) :
    readFields (fuel + 1) input =
      match skipSpaces after with
      | ',' :: rest => (readFields fuel rest).map fun read => ((key, value) :: read.1, read.2)
      | '\x7d' :: rest => some ([(key, value)], rest)
      | _ => none := by
  have hfield : renderField depth (key, value) ++ after =
      '"' :: (key.flatMap escapeChar ++ '"' :: ':' :: ' ' :: (render depth value ++ after)) := by
    simp [renderField, renderText]
  have hspaces : skipSpaces (' ' :: (render depth value ++ after)) = render depth value ++ after :=
    skipSpaces_render depth value after
  rw [readFields, hinput, hfield]
  simp only
  rw [readText_flatMap_escapeChar]
  simp only [Option.bind_eq_bind, Option.bind_some]
  rw [skipSpaces_cons (by decide)]
  simp only
  rw [hvalue hspaces hfuel hafter]
  rfl

theorem readFields_renderFields {field : Text × Json} {fields : List (Text × Json)}
    (hfield : ReadsBack field.2) (hfields : ∀ other ∈ fields, ReadsBack other.2) {depth fuel : Nat}
    {input tail rest : Text}
    (hinput : skipSpaces input = renderField depth field ++ (renderFields depth fields ++ tail))
    (hfuel : (renderField depth field).length + (renderFields depth fields).length < fuel)
    (htail : NoDigitHead tail) (hclose : skipSpaces tail = '\x7d' :: rest) :
    readFields fuel input = some (field :: fields, rest) := by
  induction fields generalizing field fuel input with
  | nil =>
      obtain ⟨fuel, rfl⟩ := Nat.exists_eq_add_one_of_ne_zero (Nat.ne_zero_of_lt hfuel)
      have hfirst : (render depth field.2).length ≤ fuel := by
        have hlength := length_render_le_renderField depth field
        omega
      have hstep := readFields_field hfield hinput hfirst htail
      rw [renderFields, List.nil_append, hclose] at hstep
      exact hstep
  | cons next fields ih =>
      obtain ⟨fuel, rfl⟩ := Nat.exists_eq_add_one_of_ne_zero (Nat.ne_zero_of_lt hfuel)
      obtain ⟨hnext, hmore⟩ := List.forall_mem_cons.mp hfields
      have hcomma : renderFields depth (next :: fields) ++ tail =
          ',' :: (lineBreak depth ++ (renderField depth next ++ (renderFields depth fields ++ tail))) := by
        simp [renderFields]
      have hlength : (renderFields depth (next :: fields)).length =
          1 + (lineBreak depth).length + (renderField depth next).length +
            (renderFields depth fields).length := by
        simp [renderFields]
        omega
      have hvalue := length_render_le_renderField depth field
      have hfirst : (render depth field.2).length ≤ fuel := by omega
      have hothers : (renderField depth next).length + (renderFields depth fields).length < fuel := by
        omega
      have hstep := readFields_field hfield hinput hfirst (hcomma ▸ noDigitHead_cons (by decide) _)
      have hnexts := ih hnext hmore
        ((skipSpaces_lineBreak depth _).trans (skipSpaces_renderField depth next _)) hothers
      rw [hcomma, skipSpaces_cons (by decide)] at hstep
      simp only [hnexts] at hstep
      exact hstep

theorem readsBack_object {fields : List (Text × Json)} (hfields : ∀ field ∈ fields, ReadsBack field.2) :
    ReadsBack (.object fields) := by
  intro depth fuel input rest hinput hfuel _
  cases fields with
  | nil =>
      obtain ⟨fuel, rfl⟩ := Nat.exists_eq_add_one_of_ne_zero (Nat.ne_zero_of_lt hfuel)
      rw [readValue, hinput]
      rfl
  | cons field fields =>
      obtain ⟨hfield, hmore⟩ := List.forall_mem_cons.mp hfields
      obtain ⟨fuel, rfl⟩ := Nat.exists_eq_add_one_of_ne_zero (Nat.ne_zero_of_lt hfuel)
      have hrender : render depth (.object (field :: fields)) ++ rest =
          '\x7b' :: (lineBreak (depth + 1) ++ (renderField (depth + 1) field ++
            (renderFields (depth + 1) fields ++ (lineBreak depth ++ '\x7d' :: rest)))) := by
        simp [render]
      have hlength : (render depth (.object (field :: fields))).length =
          2 + (lineBreak (depth + 1)).length + (renderField (depth + 1) field).length +
            (renderFields (depth + 1) fields).length + (lineBreak depth).length := by
        simp [render]
        omega
      have hspaces : ∀ after : Text,
          skipSpaces (lineBreak (depth + 1) ++ (renderField (depth + 1) field ++ after)) =
            renderField (depth + 1) field ++ after :=
        fun after => (skipSpaces_lineBreak _ _).trans (skipSpaces_renderField _ field after)
      have hfuels : (renderField (depth + 1) field).length + (renderFields (depth + 1) fields).length <
          fuel := by
        omega
      have hread := readFields_renderFields hfield hmore (hspaces _) hfuels
        (noDigitHead_lineBreak depth ('\x7d' :: rest))
        ((skipSpaces_lineBreak depth _).trans (skipSpaces_cons (by decide) rest))
      rw [readValue, hinput, hrender]
      simp only
      rw [hspaces]
      obtain ⟨key, value⟩ := field
      change (readFields fuel _).map (fun read => (Json.object read.1, read.2)) = _
      rw [hread]
      rfl

/-- Every value is read back from its text. -/
theorem readsBack (value : Json) : ReadsBack value := by
  induction value using induct with
  | null => exact readsBack_null
  | bool value => exact readsBack_bool value
  | number value => exact readsBack_number value
  | text value => exact readsBack_text value
  | array items ih => exact readsBack_array ih
  | object fields ih => exact readsBack_object ih

theorem read?_render (value : Json) : read? (render 0 value) = some value := by
  have hread : readValue (2 * (render 0 value).length + 1) (render 0 value) = some (value, []) := by
    have hinput : skipSpaces (render 0 value) = render 0 value ++ [] := by
      simpa using skipSpaces_render 0 value []
    have hfuel : (render 0 value).length ≤ 2 * (render 0 value).length + 1 := by omega
    exact readsBack value hinput hfuel (by simp [NoDigitHead])
  rw [read?, hread]
  rfl

/-! ### What is written is ASCII -/

/-- All characters of the text are below 128. -/
def IsAscii (text : Text) : Prop :=
  ∀ c ∈ text, c.toNat < 0x80

instance (text : Text) : Decidable (IsAscii text) :=
  decidable_of_iff (text.all (fun c => c.toNat < 0x80) = true) (by simp [IsAscii])

theorem isAscii_append {first second : Text} : IsAscii (first ++ second) ↔ IsAscii first ∧ IsAscii second :=
  List.forall_mem_append

theorem isAscii_cons {c : Char} {rest : Text} : IsAscii (c :: rest) ↔ c.toNat < 0x80 ∧ IsAscii rest :=
  List.forall_mem_cons

theorem isAscii_nil : IsAscii [] := by
  decide

theorem isAscii_hex (width number : Nat) : IsAscii (Text.hex width number) := by
  have hdigits : ∀ digit < 16, (Text.hexDigit digit).toNat < 0x80 := by decide
  induction width generalizing number with
  | zero => exact isAscii_nil
  | succ width ih =>
      exact isAscii_append.mpr ⟨ih _, isAscii_cons.mpr ⟨hdigits _ (Nat.mod_lt _ (by decide)), isAscii_nil⟩⟩

theorem isAscii_flatMap {α : Type} {items : List α} {f : α → Text}
    (hitems : ∀ item ∈ items, IsAscii (f item)) : IsAscii (items.flatMap f) := by
  intro c hc
  obtain ⟨item, hitem, hc⟩ := List.mem_flatMap.mp hc
  exact hitems item hitem c hc

theorem isAscii_escapeChar (c : Char) : IsAscii (escapeChar c) := by
  unfold escapeChar
  split_ifs with _ _ _ _ _ _ _ hplain
  · decide
  · decide
  · decide
  · decide
  · decide
  · decide
  · decide
  · exact isAscii_cons.mpr ⟨by omega, isAscii_nil⟩
  · exact isAscii_flatMap fun unit _ => isAscii_append.mpr ⟨by decide, isAscii_hex 4 unit⟩

theorem isAscii_renderText (text : Text) : IsAscii (renderText text) := by
  refine isAscii_cons.mpr ⟨by decide, isAscii_append.mpr ⟨?_, ?_⟩⟩
  · exact isAscii_flatMap fun c _ => isAscii_escapeChar c
  · decide

theorem isAscii_ofNat (number : Nat) : IsAscii (Text.ofNat number) := by
  intro c hc
  have hdigit := isDigit_of_mem_ofNat hc
  simp only [Char.isDigit, Bool.and_eq_true, decide_eq_true_eq] at hdigit
  have hnine : c.toNat ≤ 57 := hdigit.2
  omega

theorem isAscii_lineBreak (depth : Nat) : IsAscii (lineBreak depth) := by
  refine isAscii_cons.mpr ⟨by decide, fun c hc => ?_⟩
  rw [List.eq_of_mem_replicate hc]
  decide

theorem isAscii_renderItems {items : List Json}
    (hitems : ∀ item ∈ items, ∀ depth, IsAscii (render depth item)) (depth : Nat) : IsAscii (renderItems depth items) := by
  induction items with
  | nil => exact isAscii_nil
  | cons item items ih =>
      obtain ⟨hitem, hmore⟩ := List.forall_mem_cons.mp hitems
      simp only [renderItems, isAscii_append]
      exact ⟨⟨⟨by decide, isAscii_lineBreak depth⟩, hitem depth⟩, ih hmore⟩

theorem isAscii_renderField {field : Text × Json} (hfield : ∀ depth, IsAscii (render depth field.2))
    (depth : Nat) : IsAscii (renderField depth field) := by
  obtain ⟨key, value⟩ := field
  simp only [renderField, isAscii_append]
  exact ⟨⟨isAscii_renderText key, by decide⟩, hfield depth⟩

theorem isAscii_renderFields {fields : List (Text × Json)}
    (hfields : ∀ field ∈ fields, ∀ depth, IsAscii (render depth field.2)) (depth : Nat) :
    IsAscii (renderFields depth fields) := by
  induction fields with
  | nil => exact isAscii_nil
  | cons field fields ih =>
      obtain ⟨hfield, hmore⟩ := List.forall_mem_cons.mp hfields
      simp only [renderFields, isAscii_append]
      exact ⟨⟨⟨by decide, isAscii_lineBreak depth⟩, isAscii_renderField hfield depth⟩, ih hmore⟩

theorem isAscii_array {items : List Json}
    (hitems : ∀ item ∈ items, ∀ depth, IsAscii (render depth item)) (depth : Nat) : IsAscii (render depth (.array items)) := by
  cases items with
  | nil =>
      have hbrackets : IsAscii "[]" := by decide
      exact hbrackets
  | cons item items =>
      obtain ⟨hitem, hmore⟩ := List.forall_mem_cons.mp hitems
      simp only [render, isAscii_append]
      exact ⟨⟨⟨⟨⟨by decide, isAscii_lineBreak _⟩, hitem _⟩, isAscii_renderItems hmore _⟩,
        isAscii_lineBreak _⟩, by decide⟩

theorem isAscii_object {fields : List (Text × Json)}
    (hfields : ∀ field ∈ fields, ∀ depth, IsAscii (render depth field.2)) (depth : Nat) :
    IsAscii (render depth (.object fields)) := by
  cases fields with
  | nil =>
      have hbraces : IsAscii "\x7b\x7d" := by decide
      exact hbraces
  | cons field fields =>
      obtain ⟨hfield, hmore⟩ := List.forall_mem_cons.mp hfields
      simp only [render, isAscii_append]
      exact ⟨⟨⟨⟨⟨by decide, isAscii_lineBreak _⟩, isAscii_renderField hfield _⟩,
        isAscii_renderFields hmore _⟩, isAscii_lineBreak _⟩, by decide⟩

theorem isAscii_render (value : Json) (depth : Nat) : IsAscii (render depth value) := by
  induction value using induct generalizing depth with
  | null =>
      have hword : IsAscii "null" := by decide
      exact hword
  | bool value =>
      have hwords : IsAscii "true" ∧ IsAscii "false" := by decide
      cases value
      · exact hwords.2
      · exact hwords.1
  | number value =>
      cases value with
      | ofNat magnitude => exact isAscii_ofNat magnitude
      | negSucc magnitude => exact isAscii_cons.mpr ⟨by decide, isAscii_ofNat (magnitude + 1)⟩
  | text value => exact isAscii_renderText value
  | array items ih => exact isAscii_array ih depth
  | object fields ih => exact isAscii_object ih depth

end AsmLens.Json
