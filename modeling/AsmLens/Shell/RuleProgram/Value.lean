import AsmLens.Shell.Format
import AsmLens.Shell.RuleProgram.Syntax
import AsmLens.Text.Octets

namespace AsmLens.Shell

/-- The text whose characters are the bytes of another one. -/
def byteText (text : Text) : Text :=
  (Text.toOctets text).map fun byte => Char.ofNat byte.toNat

def octetsOf (text : Text) : List UInt8 :=
  text.map fun c => c.toNat.toUInt8

def textOfBytes (bytes : List UInt8) : Text :=
  bytes.map fun byte => Char.ofNat byte.toNat

/-- The text that has these bytes as its characters, as the names of files are written. -/
def readableText (text : Text) : Text :=
  Text.ofOctets (octetsOf text)

namespace Real

/-- What a number is without its fraction, if it is one. -/
def truncated? (value : Real) : Option Int :=
  match value.magnitude with
  | .finite significand exponent =>
      let (numerator, denominator) := Magnitude.quotient significand exponent
      let whole : Int := (numerator / denominator : Nat)
      some (if value.isNegative then -whole else whole)
  | _ => none

def isWhole (value : Real) : Bool :=
  match value.magnitude with
  | .finite significand exponent =>
      let (numerator, denominator) := Magnitude.quotient significand exponent
      numerator % denominator = 0
  | _ => false

def toFloat (value : Real) : Float :=
  let size : Float :=
    match value.magnitude with
    | .finite significand exponent => Float.scaleB (Float.ofNat significand) exponent
    | .infinite => 1.0 / 0.0
    | .notANumber => 0.0 / 0.0
  if value.isNegative then -size else size

/-- The number in a format. A machine gives what is no number a sign. -/
def formatted (format : Text) (value : Real) : Text :=
  let signed : Real :=
    match value.magnitude with
    | .notANumber => ⟨true, .notANumber⟩
    | _ => value
  textOfBytes (Formatter.ofReal (FormatPart.ofText .builtin false format) signed)

end Real

/-- The whole number that a number is, if it is small enough for a word. -/
def wholeNumber? (value : Float) : Option Int :=
  let real := Real.ofFloat value
  if real.isWhole then
    real.truncated?.filter fun whole => Formatter.signedLow ≤ whole && whole ≤ Formatter.signedHigh
  else none

/-- The text of a number: whole ones have all their digits, the others are written in a format. -/
def numberText (format : Text) (value : Float) : Text :=
  match wholeNumber? value with
  | some whole => Text.ofInt whole
  | none => (Real.ofFloat value).formatted format

/-- The number at the front of a text, or zero. -/
def leadingNumber (text : Text) : Float :=
  match Real.leading 53 text with
  | some (value, _) => value.toFloat
  | none => 0.0

/-- The number that a text is as a whole. -/
def fullNumber? (text : Text) : Option Float :=
  let isBlank (c : Char) : Bool := c = ' ' || c = '\t' || c = '\n'
  let bare := text.dropWhile isBlank
  let unsigned : Text := if bare.head?.any fun c => c = '-' || c = '+' then bare.tail else bare
  if unsigned.head?.any fun c => c.isDigit || c = '.' then
    match Real.leading 53 bare with
    | some (value, rest) =>
        let last := (bare.reverse.dropWhile isBlank).head?
        if rest.all isBlank && last.any (fun c => c.isDigit || c = '.') then some value.toFloat
        else none
    | none => none
  else none

/-- What a variable or a field is worth. Text that comes from outside counts as a number if it is one. -/
inductive RuleValue where
  | unset
  | number (value : Float)
  | text (text : Text)
  | input (text : Text)

namespace RuleValue

def ofBool (value : Bool) : RuleValue :=
  .number (if value then 1.0 else 0.0)

def ofNat (value : Nat) : RuleValue :=
  .number (Float.ofNat value)

def toNumber : RuleValue → Float
  | .unset => 0.0
  | .number value => value
  | .text content | .input content => leadingNumber content

def toText (format : Text) : RuleValue → Text
  | .unset => []
  | .number value => numberText format value
  | .text content | .input content => content

/-- The number that a value counts as in a comparison. -/
def number? : RuleValue → Option Float
  | .unset => some 0.0
  | .number value => some value
  | .text _ => none
  | .input content => fullNumber? content

def isTrue : RuleValue → Bool
  | .unset => false
  | .number value => value != 0.0
  | .text content => !content.isEmpty
  | .input content =>
      match fullNumber? content with
      | some value => value != 0.0
      | none => !content.isEmpty

def compare (format : Text) (comparison : RuleComparison) (first second : RuleValue) : Bool :=
  match first.number?, second.number? with
  | some a, some b =>
      match comparison with
      | .equal => a == b
      | .notEqual => a != b
      | .less => a < b
      | .atMost => a ≤ b
      | .greater => b < a
      | .atLeast => b ≤ a
  | _, _ =>
      let a := first.toText format
      let b := second.toText format
      match comparison with
      | .equal => a = b
      | .notEqual => a ≠ b
      | .less => Text.precedes a b && a ≠ b
      | .atMost => Text.precedes a b
      | .greater => Text.precedes b a && a ≠ b
      | .atLeast => Text.precedes b a

end RuleValue

namespace RuleOperator

/-- What is left of a number after division, with the sign of the number. -/
def remainderOf (a b : Float) : Float :=
  match Real.ofFloat a, Real.ofFloat b with
  | ⟨isNegative, .finite first low⟩, ⟨_, .finite second high⟩ =>
      if second = 0 then 0.0 / 0.0
      else
        let least := min low high
        let left := first * Nat.pow 2 (low - least).toNat % (second * Nat.pow 2 (high - least).toNat)
        let size := Float.scaleB (Float.ofNat left) least
        if isNegative then -size else size
  | ⟨_, .finite _ _⟩, ⟨_, .infinite⟩ => a
  | _, _ => 0.0 / 0.0

def apply (operator : RuleOperator) (a b : Float) : Float :=
  match operator with
  | .add => a + b
  | .subtract => a - b
  | .multiply => a * b
  | .divide => a / b
  | .remainder => remainderOf a b
  | .power => Float.pow a b

end RuleOperator

/-- A name in an array: a whole number or a text. -/
inductive RuleKey where
  | number (value : Int)
  | text (text : Text)

def RuleKey.shown : RuleKey → Text
  | .number value => Text.ofInt value
  | .text content => content

/-- A part of an array, and when it was last asked for by its number and by its text. -/
structure RuleElement where
  key : Text
  value : RuleValue
  numbered : Option (Int × Nat)
  named : Option Nat

/-- An array. The order in which its keys are gone through depends on how they were asked for. -/
structure RuleArray where
  elements : List RuleElement := []
  clock : Nat := 0
  /-- Whether all elements are known by their texts. -/
  isNamed : Bool := false
  /-- Whether the elements are known by their places only. -/
  isSequence : Bool := false

namespace RuleArray

/-- How many places a table for so many elements has. -/
def places (count : Nat) : Nat :=
  (List.range 32).foldl
    (fun places _ => if 12 * places < count then 2 * places else places) 64

/-- The place of a text in a table, before it is brought into the table. -/
def hash (text : Text) : Nat :=
  text.foldl (fun value c => (value ^^^ (c.toNat % 256)) * 16777619 % 4294967296) 2166136261

/-- Makes all elements known by their texts, in the order of their numbers in the table. -/
def nameAll (array : RuleArray) : RuleArray :=
  let size : Int := places array.elements.length
  let comesBefore (first second : RuleElement) : Bool :=
    match first.numbered, second.numbered with
    | some (a, old), some (b, new) => if a % size = b % size then new ≤ old else a % size < b % size
    | some _, none => true
    | none, _ => false
  let (known, others) := array.elements.partition fun element => element.named.isSome
  let named := (others.mergeSort comesBefore).zipIdx.map fun (element, index) =>
    { element with named := some (array.clock + index) }
  { array with
    elements := known ++ named
    clock := array.clock + others.length
    isNamed := true
    isSequence := false }

def has (array : RuleArray) (key : Text) : Bool :=
  array.elements.any fun element => element.key = key

/-- Notes that an element has been asked for. It is made if it is missing and is to be there. -/
def ask (array : RuleArray) (key : RuleKey) (creates : Bool) : RuleArray :=
  let name := key.shown
  let known := array.has name
  match key with
  | .number value =>
      let count := array.elements.length
      let isNext : Bool := !known && creates && value = count + 1
      if array.isSequence && (known || isNext) then
        if known then array
        else
          { array with
            elements := array.elements ++ [⟨name, .unset, some (value, array.clock), none⟩]
            clock := array.clock + 1 }
      else
        let now := array.clock
        let table := { array with isSequence := false, clock := now + 1 }
        if known then
          { table with
            elements := table.elements.map fun element =>
              if element.key = name then
                if element.numbered.isSome then { element with numbered := some (value, now) }
                else { element with numbered := some (value, now), named := some now }
              else element }
        else if creates then
          let named := if array.isNamed then some now else none
          { table with elements := ⟨name, .unset, some (value, now), named⟩ :: table.elements }
        else table
  | .text _ =>
      let table := if array.isNamed then array else array.nameAll
      let now := table.clock
      if known then
        { table with
          clock := now + 1
          elements := table.elements.map fun element =>
            if element.key = name then { element with named := some now } else element }
      else if creates then
        { table with
          clock := now + 1
          elements := ⟨name, .unset, none, some now⟩ :: table.elements }
      else { table with clock := now + 1 }

def get (array : RuleArray) (key : Text) : RuleValue :=
  match array.elements.find? fun element => element.key = key with
  | some element => element.value
  | none => .unset

def set (array : RuleArray) (key : Text) (value : RuleValue) : RuleArray :=
  { array with
    elements := array.elements.map fun element =>
      if element.key = key then { element with value } else element }

def erase (array : RuleArray) (key : RuleKey) : RuleArray :=
  let asked := array.ask key false
  let left := asked.elements.filter fun element => element.key ≠ key.shown
  if left.isEmpty then {} else { asked with elements := left, isSequence := false }

/-- The keys in the order of the table. -/
def keys (array : RuleArray) : List Text × RuleArray :=
  let named := if array.isNamed then array else array.nameAll
  let size := places named.elements.length
  let comesBefore (first second : RuleElement) : Bool :=
    let a := hash first.key % size
    let b := hash second.key % size
    if a = b then second.named.getD 0 ≤ first.named.getD 0 else a < b
  ((named.elements.mergeSort comesBefore).map RuleElement.key, named)

/-- An array with values under the numbers from one on. -/
def ofValues (values : List RuleValue) : RuleArray :=
  { elements := values.zipIdx.map fun (value, index) =>
      ⟨Text.ofNat (index + 1), value, some (((index + 1 : Nat) : Int), index), none⟩
    clock := values.length
    isSequence := true }

end RuleArray

end AsmLens.Shell
