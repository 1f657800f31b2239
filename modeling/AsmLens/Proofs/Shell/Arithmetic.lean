import AsmLens.Shell.Arithmetic
import Mathlib.Tactic.SplitIfs

/-!
# Arithmetic in 64 bits

Whatever an expression says, and whatever the names in it stand for, its value and all that its names get
are numbers of 64 bits.
-/

namespace AsmLens.Shell.Arithmetic

/-- A number between the least and the greatest one of 64 bits. -/
def Fits (value : Int) : Prop :=
  -9223372036854775808 ≤ value ∧ value ≤ 9223372036854775807

theorem fits_toInt (bits : Int64) : Fits bits.toInt :=
  ⟨bits.le_toInt, Int.le_of_lt_add_one bits.toInt_lt⟩

theorem fits_wrapped (value : Int) : Fits (wrapped value) :=
  fits_toInt value.toInt64

theorem fits_ofBool (value : Bool) : Fits (ofBool value) := by
  cases value <;> exact ⟨by decide, by decide⟩

theorem fits_tmod {right : Int} (left : Int) (hright : Fits right) (hne : right ≠ 0) :
    Fits (left.tmod right) := by
  unfold Fits at *
  have hmod := Int.natAbs_tmod left right
  have hlt : left.natAbs % right.natAbs < right.natAbs := Nat.mod_lt _ (by omega)
  omega

/-- What is read of digits is not negative, so it fits with either sign. -/
theorem leadingNumber_bounds (text : Text) :
    0 ≤ (leadingNumber text).1 ∧ (leadingNumber text).1 ≤ 9223372036854775807 := by
  have hdigits : ∀ base rest, 0 ≤ (leadingDigits base rest).1 ∧
      (leadingDigits base rest).1 ≤ 9223372036854775807 := by
    intro base rest
    unfold leadingDigits
    dsimp only
    omega
  unfold leadingNumber
  split
  · split
    · exact hdigits 16 _
    · exact hdigits 8 _
  · exact hdigits 8 _
  · exact hdigits 10 _

theorem fits_number? {text : Text} {value : Int} (hnumber : number? text = some value) :
    Fits value := by
  unfold number? at hnumber
  dsimp only at hnumber
  have hbounds := leadingNumber_bounds (leadingSign (text.dropWhile isBlank)).2
  unfold Fits
  split_ifs at hnumber
  all_goals
    obtain rfl := Option.some.inj hnumber
    omega

/-! ### Expressions -/

/-- If there is a result, something is said of it. -/
def Holds {ε α : Type} (property : α → Prop) (result : Except ε α) : Prop :=
  ∀ value, result = .ok value → property value

section Holds

variable {ε α β : Type} {property : α → Prop} {other : β → Prop}

theorem holds_ok {value : α} (hvalue : property value) :
    Holds property (.ok value : Except ε α) := by
  rintro _ ⟨⟩
  exact hvalue

theorem holds_error (error : ε) : Holds property (.error error : Except ε α) := by
  rintro _ ⟨⟩

theorem Holds.bind {result : Except ε α} {next : α → Except ε β} (hresult : Holds property result)
    (hnext : ∀ value, property value → Holds other (next value)) :
    Holds other (result >>= next) := by
  cases result with
  | error error => exact holds_error error
  | ok value => exact hnext value (hresult value rfl)

theorem holds_ite {condition : Prop} [Decidable condition] {result otherwise : Except ε α}
    (hresult : condition → Holds property result) (hotherwise : ¬ condition → Holds property otherwise) :
    Holds property (if condition then result else otherwise) := by
  split
  · next htrue => exact hresult htrue
  · next hfalse => exact hotherwise hfalse

end Holds

theorem holds_combine (symbol : Text) {left right : Int} (hright : Fits right) :
    Holds Fits (combine symbol left right) := by
  have hrest : right ≠ 0 → Holds Fits (.ok (left.tmod right) : Except ArithmeticError Int) :=
    fun hne => holds_ok (fits_tmod left hright hne)
  unfold combine
  refine holds_ite (fun _ => holds_ok (fits_wrapped _)) fun _ => ?_
  refine holds_ite (fun _ => holds_ok (fits_wrapped _)) fun _ => ?_
  refine holds_ite (fun _ => holds_ok (fits_wrapped _)) fun _ => ?_
  refine holds_ite (fun _ => holds_ite (fun _ => holds_error _) fun _ => holds_ok (fits_wrapped _))
    fun _ => ?_
  refine holds_ite (fun _ => holds_ite (fun _ => holds_error _) hrest) fun _ => ?_
  iterate 8 refine holds_ite (fun _ => holds_ok (fits_ofBool _)) fun _ => ?_
  iterate 4 refine holds_ite (fun _ => holds_ok (fits_toInt _)) fun _ => ?_
  exact holds_ok (fits_toInt _)

/-- Terms and given values that fit. -/
structure AllFit (terms : List Term) (given : Given) : Prop where
  terms : ∀ value, Term.number value ∈ terms → Fits value
  given : ∀ entry ∈ given, Fits entry.2

/-- A value fits, and so does all that is left with it. -/
def ResultFits (result : Int × List Term × Given) : Prop :=
  Fits result.1 ∧ AllFit result.2.1 result.2.2

theorem holds_valueOf (outside : Text → Option Text) {given : Given}
    (hgiven : ∀ entry ∈ given, Fits entry.2) (name : Text) :
    Holds Fits (valueOf outside given name) := by
  unfold valueOf
  split
  · next found hfound => exact holds_ok (hgiven _ (List.mem_of_find?_eq_some hfound))
  · dsimp only
    split
    · next number hnumber => exact holds_ok (fits_number? hnumber)
    · exact holds_error _

theorem fits_of_mem_terms {steps : Nat} {text : Text} {value : Int}
    (hmem : Term.number value ∈ terms steps text) : Fits value := by
  induction steps generalizing text with
  | zero => simp [terms] at hmem
  | succ steps ih =>
      cases text with
      | nil => simp [terms] at hmem
      | cons c rest =>
          have hbounds := leadingNumber_bounds (c :: rest)
          rw [terms] at hmem
          split_ifs at hmem
          · exact ih hmem
          · rcases List.mem_cons.mp hmem with hnumber | hlater
            · have hvalue : value = (leadingNumber (c :: rest)).1 := Term.number.inj hnumber
              unfold Fits
              omega
            · exact ih hlater
          · exact ih (by simpa using hmem)
          · exact ih (by simpa using hmem)

variable {outside : Text → Option Text} {steps : Nat} {terms rest : List Term} {term : Term}
  {given : Given}

theorem AllFit.tail (hfit : AllFit (term :: rest) given) : AllFit rest given :=
  ⟨fun value hmem => hfit.terms value (List.mem_cons_of_mem term hmem), hfit.given⟩

/-- With so many steps, all parts of an evaluation keep to values that fit. -/
structure KeepsFit (outside : Text → Option Text) (steps : Nat) : Prop where
  operand : ∀ isAsked {terms given}, AllFit terms given →
    Holds ResultFits (operand outside steps isAsked terms given)
  joined : ∀ isAsked levels {terms given}, AllFit terms given →
    Holds ResultFits (joined outside steps isAsked levels terms given)
  joinedFrom : ∀ isAsked level tighter {left terms given}, Fits left → AllFit terms given →
    Holds ResultFits (joinedFrom outside steps isAsked level tighter left terms given)
  choice : ∀ isAsked {terms given}, AllFit terms given →
    Holds ResultFits (choice outside steps isAsked terms given)
  assignment : ∀ isAsked {terms given}, AllFit terms given →
    Holds ResultFits (assignment outside steps isAsked terms given)

theorem KeepsFit.operand_succ (hkeeps : KeepsFit outside steps) (isAsked : Bool)
    (hfit : AllFit terms given) :
    Holds ResultFits (Arithmetic.operand outside (steps + 1) isAsked terms given) := by
  cases terms with
  | nil =>
      rw [Arithmetic.operand]
      · exact holds_error _
      · simp
  | cons term rest =>
      cases term with
      | number found =>
          rw [Arithmetic.operand]
          exact holds_ok ⟨hfit.terms found List.mem_cons_self, hfit.tail⟩
      | name letters =>
          have hnext : ∀ value, Fits value →
              Holds ResultFits (.ok (value, rest, given) : Evaluation) :=
            fun value hvalue => holds_ok ⟨hvalue, hfit.tail⟩
          have hzero : Holds Fits (.ok 0 : Except ArithmeticError Int) := holds_ok (fits_ofBool false)
          rw [Arithmetic.operand]
          exact holds_ite (fun _ => (holds_valueOf outside hfit.given letters).bind hnext)
            fun _ => hzero.bind hnext
      | operator sign =>
          rw [Arithmetic.operand]
          refine holds_ite (fun _ => ?_) fun _ => holds_ite (fun _ => ?_) fun _ =>
            holds_ite (fun _ => ?_) fun _ => holds_error _
          · refine (hkeeps.assignment isAsked hfit.tail).bind ?_
            rintro ⟨found, left, named⟩ ⟨hfound, hleft⟩
            split
            · next heq =>
                obtain ⟨rfl, rfl, rfl⟩ := by simpa using heq
                exact holds_ok ⟨hfound, hleft.tail⟩
            · exact holds_error _
          · exact hkeeps.operand isAsked hfit.tail
          · refine (hkeeps.operand isAsked hfit.tail).bind ?_
            rintro ⟨found, left, named⟩ ⟨hfound, hleft⟩
            have hflipped : Fits (-found - 1) := by
              have hbounds : Fits found := hfound
              unfold Fits at hbounds ⊢
              omega
            refine holds_ok ⟨?_, hleft⟩
            dsimp only
            split_ifs
            · exact fits_wrapped _
            · exact hflipped
            · exact fits_ofBool _

theorem KeepsFit.joined_succ (hkeeps : KeepsFit outside steps) (isAsked : Bool)
    (levels : List (List Text)) (hfit : AllFit terms given) :
    Holds ResultFits (Arithmetic.joined outside (steps + 1) isAsked levels terms given) := by
  cases levels with
  | nil =>
      rw [Arithmetic.joined]
      exact hkeeps.operand isAsked hfit
  | cons level tighter =>
      rw [Arithmetic.joined]
      refine (hkeeps.joined isAsked tighter hfit).bind ?_
      rintro ⟨left, rest, named⟩ ⟨hleft, hrest⟩
      exact hkeeps.joinedFrom isAsked level tighter hleft hrest

theorem KeepsFit.joinedFrom_succ (hkeeps : KeepsFit outside steps) (isAsked : Bool)
    (level : List Text) (tighter : List (List Text)) {left : Int} (hleft : Fits left)
    (hfit : AllFit terms given) :
    Holds ResultFits
      (Arithmetic.joinedFrom outside (steps + 1) isAsked level tighter left terms given) := by
  unfold Arithmetic.joinedFrom
  split
  · next symbol rest =>
      refine holds_ite (fun _ => ?_) fun _ => holds_ok ⟨hleft, hfit⟩
      refine (hkeeps.joined _ tighter hfit.tail).bind ?_
      rintro ⟨right, rest, named⟩ ⟨hright, hrest⟩
      have hnext : ∀ value, Fits value → Holds ResultFits
          (Arithmetic.joinedFrom outside steps isAsked level tighter value rest named) :=
        fun value hvalue => hkeeps.joinedFrom isAsked level tighter hvalue hrest
      have hzero : Holds Fits (.ok 0 : Except ArithmeticError Int) := holds_ok (fits_ofBool false)
      exact holds_ite (fun _ => (holds_combine symbol hright).bind hnext) fun _ => hzero.bind hnext
  · exact holds_ok ⟨hleft, hfit⟩

theorem KeepsFit.choice_succ (hkeeps : KeepsFit outside steps) (isAsked : Bool)
    (hfit : AllFit terms given) :
    Holds ResultFits (Arithmetic.choice outside (steps + 1) isAsked terms given) := by
  rw [Arithmetic.choice]
  refine (hkeeps.joined isAsked levels hfit).bind ?_
  rintro ⟨condition, rest, named⟩ ⟨hcondition, hrest⟩
  split
  · next heq =>
      obtain ⟨rfl, rfl, rfl⟩ := by simpa using heq
      refine (hkeeps.assignment _ hrest.tail).bind ?_
      rintro ⟨first, rest, named⟩ ⟨hfirst, hrest⟩
      split
      · next heq =>
          obtain ⟨rfl, rfl, rfl⟩ := by simpa using heq
          refine (hkeeps.choice _ hrest.tail).bind ?_
          rintro ⟨second, rest, named⟩ ⟨hsecond, hrest⟩
          refine holds_ok ⟨?_, hrest⟩
          dsimp only
          split
          · exact hfirst
          · exact hsecond
      · exact holds_error _
  · exact holds_ok ⟨hcondition, hrest⟩

theorem KeepsFit.assignment_succ (hkeeps : KeepsFit outside steps) (isAsked : Bool)
    (hfit : AllFit terms given) :
    Holds ResultFits (Arithmetic.assignment outside (steps + 1) isAsked terms given) := by
  unfold Arithmetic.assignment
  split
  · next letters symbol rest =>
      refine holds_ite (fun _ => ?_) fun _ => hkeeps.choice isAsked hfit
      refine (hkeeps.assignment isAsked hfit.tail.tail).bind ?_
      rintro ⟨right, rest, named⟩ ⟨hright, hrest⟩
      have hnext : ∀ value, Fits value → Holds ResultFits
          (.ok (value, rest, (letters, value) :: named) : Evaluation) := by
        refine fun value hvalue => holds_ok ⟨hvalue, hrest.terms, ?_⟩
        exact List.forall_mem_cons.mpr ⟨hvalue, hrest.given⟩
      refine holds_ite (fun _ => holds_ok ⟨hright, hrest⟩) fun _ => ?_
      refine holds_ite (fun _ => hnext right hright) fun _ => ?_
      refine (holds_valueOf outside hrest.given letters).bind fun left _ => ?_
      exact (holds_combine _ hright).bind hnext
  · exact hkeeps.choice isAsked hfit

theorem keepsFit (outside : Text → Option Text) (steps : Nat) : KeepsFit outside steps := by
  induction steps with
  | zero =>
      constructor
      · intro isAsked terms given _
        rw [operand]
        exact holds_error _
      · intro isAsked levels terms given _
        rw [joined]
        exact holds_error _
      · intro isAsked level tighter left terms given _ _
        rw [joinedFrom]
        exact holds_error _
      · intro isAsked terms given _
        rw [choice]
        exact holds_error _
      · intro isAsked terms given _
        rw [assignment]
        exact holds_error _
  | succ steps ih =>
      exact
        { operand := fun isAsked => ih.operand_succ isAsked
          joined := fun isAsked levels => ih.joined_succ isAsked levels
          joinedFrom := fun isAsked level tighter => ih.joinedFrom_succ isAsked level tighter
          choice := fun isAsked => ih.choice_succ isAsked
          assignment := fun isAsked => ih.assignment_succ isAsked }

/-- The value of an expression has 64 bits, and so has every value that a name gets in it. -/
theorem fits_of_evaluate {text : Text} {value : Int}
    (hvalue : evaluate outside text = .ok (value, given)) :
    Fits value ∧ ∀ entry ∈ given, Fits entry.2 := by
  have hfit : AllFit (terms (text.length + 1) text) [] :=
    ⟨fun _ hmem => fits_of_mem_terms hmem, by simp⟩
  have hresult : Holds (fun result : Int × Given => Fits result.1 ∧ ∀ entry ∈ result.2, Fits entry.2)
      (evaluate outside text) := by
    refine ((keepsFit outside _).assignment true hfit).bind ?_
    rintro ⟨value, rest, given⟩ ⟨hvalue, hrest⟩
    split
    · next heq =>
        obtain ⟨rfl, rfl, rfl⟩ := by simpa using heq
        exact holds_ok ⟨hvalue, hrest.given⟩
    · exact holds_error _
  exact hresult _ hvalue

end AsmLens.Shell.Arithmetic
