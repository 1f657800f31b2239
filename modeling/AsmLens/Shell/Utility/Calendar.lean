import AsmLens.Shell.Utility.Basic
import AsmLens.Text.Number

namespace AsmLens.Shell

/-- A day, and the seconds since its start. Days are counted from the first one of 1970. -/
structure Moment where
  day : Int
  second : Int
  nanosecond : Nat := 0

namespace Moment

/-- The number of a day, by the number of the year, the month and the day in it. -/
def dayOf (year month day : Int) : Int :=
  let shifted := if month ≤ 2 then year - 1 else year
  let era := shifted.fdiv 400
  let yearOfEra := shifted - era * 400
  let monthFromMarch := (month + 9).emod 12
  let dayOfYear := (153 * monthFromMarch + 2).tdiv 5 + day - 1
  era * 146097 + yearOfEra * 365 + yearOfEra.tdiv 4 - yearOfEra.tdiv 100 + dayOfYear - 719468

/-- The year, the month and the day of the month. -/
def date (moment : Moment) : Int × Int × Int :=
  let shifted := moment.day + 719468
  let era := shifted.fdiv 146097
  let dayOfEra := shifted - era * 146097
  let yearOfEra :=
    (dayOfEra - dayOfEra.tdiv 1460 + dayOfEra.tdiv 36524 - dayOfEra.tdiv 146096).tdiv 365
  let dayOfYear := dayOfEra - (365 * yearOfEra + yearOfEra.tdiv 4 - yearOfEra.tdiv 100)
  let monthFromMarch := (5 * dayOfYear + 2).tdiv 153
  let day := dayOfYear - (153 * monthFromMarch + 2).tdiv 5 + 1
  let month := if monthFromMarch < 10 then monthFromMarch + 3 else monthFromMarch - 9
  (yearOfEra + era * 400 + (if month ≤ 2 then 1 else 0), month, day)

def ofSeconds (seconds : Int) (nanosecond : Nat) : Moment :=
  ⟨seconds.fdiv 86400, seconds.fmod 86400, nanosecond⟩

def seconds (moment : Moment) : Int :=
  moment.day * 86400 + moment.second

/-- The day of the week, from Sunday on. -/
def weekday (moment : Moment) : Int :=
  (moment.day + 4).fmod 7

def dayOfYear (moment : Moment) : Int :=
  moment.day - dayOf moment.date.1 1 1

def monthNames : List Text := ["January", "February", "March", "April", "May", "June", "July", "August",
  "September", "October", "November", "December"]

def dayNames : List Text :=
  ["Sunday", "Monday", "Tuesday", "Wednesday", "Thursday", "Friday", "Saturday"]

/-- The year and the number of a week that starts on Monday, where the first one has most of its days in
the year. -/
def week (moment : Moment) : Int × Int :=
  let thursday : Moment := { moment with day := moment.day - (moment.weekday + 6).fmod 7 + 3 }
  (thursday.date.1, thursday.dayOfYear.fdiv 7 + 1)

/-- A number with so many places, filled up with zeros or blanks, or not at all. -/
def padded (fill : Char) (width : Nat) (value : Int) : Text :=
  let digits := Text.ofNat value.natAbs
  let sign : Text := if value < 0 then ['-'] else []
  if fill = '-' then sign ++ digits
  else
    let blanks := width - digits.length - sign.length
    if fill = '_' then List.replicate blanks ' ' ++ sign ++ digits
    else sign ++ List.replicate blanks '0' ++ digits

/-- The number that a letter of a format stands for, how many places it takes, and what they are filled up
with. -/
def number? (moment : Moment) (letter : Char) : Option (Int × Nat × Char) :=
  let (year, month, day) := moment.date
  let hour := moment.second.fdiv 3600
  let short := if hour.fmod 12 = 0 then 12 else hour.fmod 12
  match letter with
  | 'Y' => some (year, 4, '0')
  | 'C' => some (year.fdiv 100, 2, '0')
  | 'y' => some (year.fmod 100, 2, '0')
  | 'm' => some (month, 2, '0')
  | 'd' => some (day, 2, '0')
  | 'e' => some (day, 2, '_')
  | 'H' => some (hour, 2, '0')
  | 'k' => some (hour, 2, '_')
  | 'I' => some (short, 2, '0')
  | 'l' => some (short, 2, '_')
  | 'M' => some ((moment.second.fdiv 60).fmod 60, 2, '0')
  | 'S' => some (moment.second.fmod 60, 2, '0')
  | 'j' => some (moment.dayOfYear + 1, 3, '0')
  | 's' => some (moment.seconds, 1, '0')
  | 'N' => some (moment.nanosecond, 9, '0')
  | 'q' => some ((month - 1).fdiv 3 + 1, 1, '0')
  | 'u' => some (if moment.weekday = 0 then 7 else moment.weekday, 1, '0')
  | 'w' => some (moment.weekday, 1, '0')
  | 'U' => some ((moment.dayOfYear + 7 - moment.weekday).fdiv 7, 2, '0')
  | 'W' => some ((moment.dayOfYear + 7 - (moment.weekday + 6).fmod 7).fdiv 7, 2, '0')
  | 'G' => some (moment.week.1, 4, '0')
  | 'g' => some (moment.week.1.fmod 100, 2, '0')
  | 'V' => some (moment.week.2, 2, '0')
  | _ => none

/-- The format that a letter stands for. -/
def compound? (letter : Char) : Option Text :=
  match letter with
  | 'F' => some "%Y-%m-%d"
  | 'D' | 'x' => some "%m/%d/%y"
  | 'T' | 'X' => some "%H:%M:%S"
  | 'R' => some "%H:%M"
  | 'r' => some "%I:%M:%S %p"
  | 'c' => some "%a %b %e %H:%M:%S %Y"
  | _ => none

def word? (moment : Moment) (letter : Char) : Option Text :=
  let dayName := dayNames.getD moment.weekday.toNat []
  let monthName := monthNames.getD (moment.date.2.1 - 1).toNat []
  let isMorning : Bool := moment.second < 43200
  match letter with
  | 'a' => some (dayName.take 3)
  | 'A' => some dayName
  | 'b' | 'h' => some (monthName.take 3)
  | 'B' => some monthName
  | 'p' => some (if isMorning then "AM" else "PM")
  | 'P' => some (if isMorning then "am" else "pm")
  | 'Z' => some "UTC"
  | 'z' => some "+0000"
  | 'n' => some "\n"
  | 't' => some "\t"
  | '%' => some "%"
  | _ => none

/-- A moment in a format. As many steps are allowed. -/
def formatted (moment : Moment) : Nat → Text → Text
  | 0, _ => []
  | _, [] => []
  | steps + 1, '%' :: rest =>
      let flags := rest.takeWhile ("-_0^#+".toList.contains ·)
      let afterFlags := rest.drop flags.length
      let digits := afterFlags.takeWhile Char.isDigit
      let after := afterFlags.drop digits.length
      let width := ((Text.readNat? digits).getD 0)
      let colons := after.takeWhile (· = ':')
      match after.drop colons.length with
      | [] => '%' :: rest
      | letter :: left =>
          let cased (text : Text) : Text :=
            if flags.contains '^' then text.map Char.toUpper
            else if flags.contains '#' then
              if letter = 'Z' ∨ letter = 'p' then text.map Char.toLower else text.map Char.toUpper
            else text
          let fill? := (flags.reverse.find? ("-_0".toList.contains ·))
          let text : Option Text :=
            if colons ≠ [] then
              if letter = 'z' then
                some (if colons.length = 1 then "+00:00" else if colons.length = 2 then "+00:00:00"
                  else "+00")
              else none
            else
              match moment.number? letter, compound? letter, moment.word? letter with
              | some (value, places, fill), _, _ =>
                  some (padded (fill?.getD fill) (if digits.isEmpty then places else width) value)
              | none, some format, _ => some (cased (formatted moment steps format))
              | none, none, some word => some (rightAligned width (cased word))
              | none, none, none => none
          match text with
          | some text => text ++ formatted moment steps left
          | none =>
              '%' :: rest.take (rest.length - left.length) ++ formatted moment steps left
  | steps + 1, c :: rest => c :: formatted moment steps rest

end Moment

/-- What has been understood of a description of a moment. -/
structure MomentReader where
  date : Option (Int × Int × Int) := none
  time : Option Int := none
  months : Int := 0
  seconds : Int := 0

namespace MomentReader

def naturals (separator : Char) (word : Text) : Option (List Int) :=
  (Text.cut separator word).mapM fun part => (count? part).map fun value => (value : Int)

/-- A time of the day, with an hour that may be told by its half of the day. -/
def timeOf? (word : Text) : Option Int :=
  let bare := if word.getLast? = some 'z' then word.dropLast else word
  let half := if ("am" : Text).isSuffixOf bare then some 0
    else if ("pm" : Text).isSuffixOf bare then some 12 else none
  let digits := if half.isSome then bare.take (bare.length - 2) else bare
  match naturals ':' digits, half with
  | some [hour], some later => checked (hour.fmod 12 + later) 0 0
  | some [hour, minute], some later => checked (hour.fmod 12 + later) minute 0
  | some [hour, minute], none => checked hour minute 0
  | some [hour, minute, second], none => checked hour minute second
  | _, _ => none
where
  checked (hour minute second : Int) : Option Int :=
    if hour < 24 ∧ minute < 60 ∧ second < 61 then some (hour * 3600 + minute * 60 + second) else none

def dateOf? (word : Text) : Option (Int × Int × Int) :=
  let found : Option (Int × Int × Int) :=
    match naturals '-' word, naturals '/' word with
    | some [year, month, day], _ => some (year, month, day)
    | _, some [first, second, third] =>
        if 31 < first then some (first, second, third) else some (third, first, second)
    | some [number], _ =>
        if word.length = 8 then some (number / 10000, number / 100 % 100, number % 100) else none
    | _, _ => none
  found.filter fun (year, month, day) =>
    let moment : Moment := ⟨Moment.dayOf year month day, 0, 0⟩
    1 ≤ month && month ≤ 12 && moment.date = (year, month, day)

def monthOf? (word : Text) : Option Int :=
  let lowered := Moment.monthNames.map fun name => name.map Char.toLower
  (lowered.findIdx? fun name => name = word || name.take 3 = word).map fun index => index + 1

/-- The months and the seconds of a unit. -/
def unitOf? (word : Text) : Option (Int × Int) :=
  let bare := if word.getLast? = some 's' ∧ 3 < word.length then word.dropLast else word
  let units : List (Text × Int × Int) := [("second", 0, 1), ("sec", 0, 1), ("minute", 0, 60),
    ("min", 0, 60), ("hour", 0, 3600), ("day", 0, 86400), ("week", 0, 604800),
    ("fortnight", 0, 1209600), ("month", 1, 0), ("year", 12, 0)]
  (units.find? fun entry => entry.1 = bare).map Prod.snd

def move (reader : MomentReader) (count : Int) (unit : Int × Int) : MomentReader :=
  { reader with
    months := reader.months + count * unit.1
    seconds := reader.seconds + count * unit.2 }

/-- Understands the words of a description. As many steps are allowed. -/
def read : Nat → MomentReader → List Text → Option MomentReader
  | 0, _, _ => none
  | _, reader, [] => some reader
  | steps + 1, reader, word :: rest =>
      let (sign, digits) : Int × Text :=
        match word with
        | '-' :: digits => (-1, digits)
        | '+' :: digits => (1, digits)
        | digits => (1, digits)
      let relative : Option (MomentReader × List Text) :=
        match count? digits, rest with
        | some count, unitWord :: "ago" :: rest =>
            (unitOf? unitWord).map fun unit => (reader.move (-sign * count) unit, rest)
        | some count, unitWord :: rest =>
            (unitOf? unitWord).map fun unit => (reader.move (sign * count) unit, rest)
        | _, _ => none
      let named : List (Text × MomentReader) := [("now", reader), ("today", reader), ("utc", reader),
        ("gmt", reader), ("z", reader), ("+", reader),
        ("yesterday", reader.move (-1) (0, 86400)), ("tomorrow", reader.move 1 (0, 86400)),
        ("midnight", { reader with time := some 0 }), ("noon", { reader with time := some 43200 })]
      match relative with
      | some (reader, rest) => read steps reader rest
      | none =>
          match named.find? fun entry => entry.1 = word with
          | some (_, reader) => read steps reader rest
          | none =>
              match dateOf? word, timeOf? word with
              | some date, _ => read steps { reader with date := some date } rest
              | none, some time => read steps { reader with time := some time } rest
              | none, none => readNamed (read steps) reader word rest
where
  /-- A date with the name of a month, or what is left without the name of a day. -/
  readNamed (goOn : MomentReader → List Text → Option MomentReader) (reader : MomentReader)
      (word : Text) (rest : List Text) : Option MomentReader :=
    let isDay := Moment.dayNames.any fun name =>
      (name.map Char.toLower).take 3 = word.take 3 && 3 ≤ word.length
    let number (word : Text) : Option Int :=
      (count? (word.filter fun c => c ≠ ',')).map fun value => (value : Int)
    match monthOf? word, rest.map number, number word with
    | some month, some day :: some year :: _, _ =>
        goOn { reader with date := some (year, month, day) } (rest.drop 2)
    | some month, some day :: _, _ =>
        goOn { reader with date := some (1970, month, day) } (rest.drop 1)
    | none, _ :: some year :: _, some day =>
        (monthOf? (rest.headD [])).bind fun month =>
          goOn { reader with date := some (year, month, day) } (rest.drop 2)
    | none, _, _ => if isDay then goOn reader rest else none
    | some _, _, _ => none

/-- The moment that is described. What is not told is that of another moment. -/
def moment (reader : MomentReader) (now : Moment) : Moment :=
  let isBare := reader.date.isNone && reader.time.isNone
  let (year, month, day) := reader.date.getD now.date
  let months := year * 12 + (month - 1) + reader.months
  let start := Moment.dayOf (months.fdiv 12) (months.fmod 12 + 1) day
  let second := reader.time.getD (if isBare then now.second else 0)
  Moment.ofSeconds (start * 86400 + second + reader.seconds) 0

/-- The moment that a text describes. -/
def ofText? (now : Moment) (text : Text) : Option Moment :=
  match text with
  | '@' :: rest =>
      let (isNegative, digits) : Bool × Text :=
        match rest with
        | '-' :: digits => (true, digits)
        | digits => (false, digits)
      match Text.cut '.' digits with
      | [whole] => (count? whole).map fun value => .ofSeconds (if isNegative then -value else value) 0
      | [whole, part] => do
          let value ← count? whole
          let nanosecond ← count? ((part ++ List.replicate 9 '0').take 9)
          some (.ofSeconds (if isNegative then -value else value) nanosecond)
      | _ => none
  | text =>
      let lowered := text.map fun c => if c = '\t' then ' ' else c.toLower
      let spaced := (lowered.zip (lowered.tail ++ [' '])).zipIdx.map fun ((c, next), index) =>
        if c = 't' && next.isDigit && 0 < index then ' ' else c
      let words := (Text.cut ' ' spaced).filter (· ≠ [])
      if words.isEmpty then some { now with second := 0 }
      else (read (words.length + 1) {} words).map fun reader => reader.moment now

end MomentReader

namespace Invocation

/-- Tells a moment, which is the first second of 1970 if no other one is described. -/
def date (invocation : Invocation) : Effect :=
  invocation.reading ("u=utc,universal d:=date f:=file I::=iso-8601 R=rfc-email,rfc-2822 r:=reference " ++
    "s:=set =debug :=rfc-3339") 1 fun options =>
    let now := Moment.ofSeconds 0 0
    let described := options.value? "d"
    let formats := options.operands.filter fun word => word.head? = some '+'
    let others := options.operands.filter fun word => word.head? ≠ some '+'
    match others, formats, described.map (MomentReader.ofText? now) with
    | word :: _, [], _ => invocation.refuse ("invalid date " ++ curled word) 1
    | word :: _, _, _ => invocation.misuse ("extra operand " ++ curled word) 1
    | [], _ :: word :: _, _ => invocation.misuse ("extra operand " ++ curled word) 1
    | [], _, some none =>
        invocation.refuse ("invalid date " ++ curled (described.getD [])) 1
    | [], formats, moment? =>
        let moment := (moment?.bind id).getD now
        let format : Text :=
          match formats with
          | format :: _ => format.tail
          | [] =>
              if options.has "R" then "%a, %d %b %Y %H:%M:%S %z"
              else
                match options.value? "I", options.value? "rfc-3339" with
                | some precision, _ =>
                    if precision = "hours" then "%Y-%m-%dT%H%:z"
                    else if precision = "minutes" then "%Y-%m-%dT%H:%M%:z"
                    else if precision = "seconds" then "%Y-%m-%dT%H:%M:%S%:z"
                    else if precision = "ns" then "%Y-%m-%dT%H:%M:%S,%N%:z"
                    else "%Y-%m-%d"
                | none, some precision =>
                    if precision = "date" then "%Y-%m-%d"
                    else if precision = "ns" then "%Y-%m-%d %H:%M:%S.%N%:z"
                    else "%Y-%m-%d %H:%M:%S%:z"
                | none, none => "%a %b %e %H:%M:%S %Z %Y"
        match options.value? "r" with
        | some path =>
            match invocation.tree.status path with
            | .error errno => invocation.refuse (shownName path ++ ": " ++ errno.text) 1
            | .ok _ =>
                invocation.report (.ofText (moment.formatted (format.length + 64) format ++ "\n"))
        | none => invocation.report (.ofText (moment.formatted (format.length + 64) format ++ "\n"))

end Invocation

end AsmLens.Shell
