import AsmLens.Shell.Regex.Match
import AsmLens.Shell.Regex.Reader
import AsmLens.Shell.RuleProgram.Value

namespace AsmLens.Shell

/-- What stands between records or fields. -/
inductive RuleSeparator where
  | blanks
  | nothing
  | character (c : Char)
  | regex (regex : Regex)

namespace RuleSeparator

def isBlank (c : Char) : Bool :=
  c = ' ' || c = '\t' || c = '\n'

/-- A single character stands for itself. -/
def ofText : Text → Except RegexError RuleSeparator
  | [] => .ok .nothing
  | [' '] => .ok .blanks
  | [c] => .ok (.character c)
  | text => (Regex.read .escaped text).map .regex

/-- The first place that an expression finds something at, if it is not nothing. As many steps are
allowed. -/
def findSome? (regex : Regex) : Nat → Option Char → Text → Option Found
  | 0, _, _ => none
  | steps + 1, before, text =>
      match regex.find? {} before text with
      | none => none
      | some found =>
          if found.matched.isEmpty then
            match found.rest with
            | [] => none
            | c :: rest =>
                (findSome? regex steps (some c) rest).map fun next =>
                  { next with skipped := found.skipped ++ c :: next.skipped }
          else some found

/-- The words of a text. As many steps are allowed. -/
def words : Nat → Text → List Text
  | 0, _ => []
  | steps + 1, text =>
      match text.dropWhile isBlank with
      | [] => []
      | start =>
          let word := start.takeWhile fun c => !isBlank c
          word :: words steps (start.drop word.length)

/-- The parts between what an expression finds. As many steps are allowed. -/
def parts (regex : Regex) : Nat → Option Char → Text → List Text
  | 0, _, text => [text]
  | steps + 1, before, text =>
      match findSome? regex (text.length + 1) before text with
      | none => [text]
      | some found => found.skipped :: parts regex steps found.matched.getLast? found.rest

def fields (separator : RuleSeparator) (text : Text) : List Text :=
  if text.isEmpty then []
  else
    match separator with
    | .blanks => words (text.length + 1) text
    | .nothing => text.map fun c => [c]
    | .character c => Text.cut c text
    | .regex expression => parts expression text.length none text

/-- What is in front of an empty line, and what is behind all empty lines there. As many steps are
allowed. -/
def paragraph : Nat → Text → Text × Text
  | 0, text => (text, [])
  | _, [] => ([], [])
  | steps + 1, '\n' :: rest =>
      if rest.head?.all (· = '\n') then ([], rest.dropWhile (· = '\n'))
      else
        let (line, after) := paragraph steps rest
        ('\n' :: line, after)
  | steps + 1, c :: rest =>
      let (line, after) := paragraph steps rest
      (c :: line, after)

/-- The next record, and what comes after it. -/
def takeRecord? (separator : RuleSeparator) (text : Text) : Option (Text × Text) :=
  let upTo (mark : Char) : Option (Text × Text) :=
    if text.isEmpty then none
    else
      let record := text.takeWhile (· ≠ mark)
      some (record, text.drop (record.length + 1))
  match separator with
  | .blanks => upTo ' '
  | .character c => upTo c
  | .nothing =>
      match text.dropWhile (· = '\n') with
      | [] => none
      | start => some (paragraph (start.length + 1) start)
  | .regex expression =>
      if text.isEmpty then none
      else
        match findSome? expression (text.length + 1) none text with
        | none => some (text, [])
        | some found => some (found.skipped, found.rest)

end RuleSeparator

namespace RuleText

/-- What takes the place of a text that has been found. An ampersand stands for that text, unless
there is a backslash before it that has none before itself. Backslashes are counted first. -/
def replacement (matched : Text) : Nat → Text → Text
  | slashes, [] => List.replicate slashes '\\'
  | slashes, '\\' :: rest => replacement matched (slashes + 1) rest
  | slashes, '&' :: rest =>
      List.replicate (slashes / 2) '\\' ++ (if slashes % 2 = 0 then matched else ['&']) ++
        replacement matched 0 rest
  | slashes, c :: rest => List.replicate slashes '\\' ++ c :: replacement matched 0 rest

/-- Replaces what an expression finds in a text, once or everywhere. Gives how often it did. Nothing is
not found right behind something. As many steps are allowed. -/
def substitute (regex : Regex) (new : Text) (replacesAll : Bool) :
    Nat → Option Char → Bool → Text → Nat × Text
  | 0, _, _, text => (0, text)
  | steps + 1, before, findsNothing, text =>
      match regex.find? {} before text with
      | none => (0, text)
      | some found =>
          let goOn (before : Option Char) (findsNothing : Bool) (rest : Text) : Nat × Text :=
            if replacesAll then substitute regex new replacesAll steps before findsNothing rest
            else (0, rest)
          let put := found.skipped ++ replacement found.matched 0 new
          if !found.matched.isEmpty then
            let (count, rest) := goOn found.matched.getLast? false found.rest
            (count + 1, put ++ rest)
          else if found.skipped.isEmpty && !findsNothing then
            match text with
            | [] => (0, [])
            | c :: rest =>
                let (count, rest) := goOn (some c) true rest
                (count, c :: rest)
          else
            match found.rest with
            | [] => (1, put)
            | c :: rest =>
                let (count, rest) := goOn (some c) true rest
                (count + 1, put ++ c :: rest)

/-- The nearest whole number, where a half goes to the even neighbour. -/
def rounded (value : Float) : Option Int :=
  let real := Real.ofFloat value
  match real.magnitude with
  | .finite significand exponent =>
      let (numerator, denominator) := Magnitude.quotient significand exponent
      let whole : Int := roundedQuotient numerator denominator
      some (if real.isNegative then -whole else whole)
  | _ => none

/-- The part of a text from a place on, which has some length if it is bounded. -/
def portion (text : Text) (start : Float) (length? : Option Float) : Text :=
  let count : Int := text.length
  let first := (rounded start).getD (if start > 0.0 then count + 1 else 1)
  let last : Int :=
    match length? with
    | none => count + 1
    | some length =>
        (rounded (start + length)).getD (if start + length > 0.0 then count + 1 else 1)
  let low := max 1 first
  let high := min (count + 1) last
  (text.drop (low - 1).toNat).take (high - low).toNat

/-- What a format tells about the place of an argument, besides the letter. -/
structure Layout where
  flags : Text
  width : Int
  precision : Option Int

/-- A value in the place of a conversion, if there is one with this letter. -/
def converted? (format : Text) (layout : Layout) (letter : Char) (value : RuleValue) : Option Text :=
  let flags := layout.flags
  let padded (text : Text) : Text :=
    textOfBytes (Formatter.pad flags layout.width (octetsOf text))
  let shown (sign digits : Text) : Text :=
    textOfBytes (Formatter.number flags layout.width layout.precision sign digits)
  let number := value.toNumber
  let whole : Int := (Real.ofFloat number).truncated?.getD
    (if number > 0.0 then Formatter.wordSize else -Formatter.wordSize)
  let word := (min whole (Formatter.wordSize - 1) % Formatter.wordSize).toNat
  let isAlternate := flags.contains '#' && word ≠ 0
  match letter with
  | 'd' | 'i' =>
      let kept := max (-Formatter.signedHigh) (min whole (Formatter.wordSize - 1))
      some (shown (Formatter.signOf flags kept) (Text.ofNat kept.natAbs))
  | 'u' => some (shown [] (Text.ofNat word))
  | 'o' =>
      let digits := Nat.toDigits 8 word
      some (shown [] (if isAlternate then '0' :: digits else digits))
  | 'x' => some (shown (if isAlternate then ['0', 'x'] else []) (Nat.toDigits 16 word))
  | 'X' =>
      some (shown (if isAlternate then ['0', 'X'] else [])
        ((Nat.toDigits 16 word).map Char.toUpper))
  | 'e' | 'f' | 'g' | 'E' | 'F' | 'G' =>
      some (textOfBytes (Formatter.real 64 flags layout.width layout.precision letter
        (Real.ofFloat number)))
  | 's' =>
      let text := value.toText format
      some (padded (match layout.precision with
        | some places => text.take places.toNat
        | none => text))
  | 'c' =>
      let asCode : Text := [Char.ofNat (whole % 256).toNat]
      some (padded (match value with
        | .unset => ['\x00']
        | .number _ => asCode
        | .text content => content.take 1
        | .input content => if (fullNumber? content).isSome then asCode else content.take 1))
  | _ => none

/-- A number of columns in a format, which the next value may give. -/
def measure (text : Text) (values : List RuleValue) : Option (Option Int × Text × List RuleValue) :=
  match text, values with
  | '*' :: _, [] => none
  | '*' :: rest, value :: values =>
      some ((Real.ofFloat value.toNumber).truncated?, rest, values)
  | text, values =>
      let digits := text.takeWhile Char.isDigit
      some ((Text.readNat? digits).map Int.ofNat, text.drop digits.length, values)

/-- Writes values in a format, up to a place where that is not possible. As many steps are allowed,
and conversions are counted. -/
def format (conversion : Text) : Nat → Nat → Text → List RuleValue → Text × Option Text
  | 0, _, _, _ => ([], none)
  | _, _, [], _ => ([], none)
  | steps + 1, count, '%' :: '%' :: rest, values =>
      let (text, complaint) := format conversion steps count rest values
      ('%' :: text, complaint)
  | steps + 1, count, '%' :: rest, values =>
      let missing : Text × Option Text := ([], some "not enough arguments passed to ")
      let flags := rest.takeWhile ("-+ #0".toList.contains ·)
      match measure (rest.drop flags.length) values with
      | none => missing
      | some (width, rest, values) =>
          let precision? : Option (Option Int × Text × List RuleValue) :=
            match rest with
            | '.' :: rest =>
                (measure rest values).map fun (places, rest, values) =>
                  (some (places.getD 0), rest, values)
            | rest => some (none, rest, values)
          match precision? with
          | none => missing
          | some (precision, rest, values) =>
              match rest.dropWhile (fun c => c = 'h' || c = 'l'), values with
              | [], _ | _, [] => missing
              | letter :: rest, value :: values =>
                  let layout : Layout := ⟨flags, width.getD 0, precision.filter (0 ≤ ·)⟩
                  match converted? conversion layout letter value with
                  | none =>
                      ([], some ("improper conversion(number " ++ Text.ofNat (count + 1) ++ ") in "))
                  | some shown =>
                      let (text, complaint) := format conversion steps (count + 1) rest values
                      (shown ++ text, complaint)
  | steps + 1, count, c :: rest, values =>
      let (text, complaint) := format conversion steps count rest values
      (c :: text, complaint)

end RuleText

end AsmLens.Shell
