import AsmLens.Shell.Builtin.Variables

namespace AsmLens.Shell

namespace Machine

/-- Assigns a part of a line to a name. A name that is fixed is told. -/
def assignRead (machine : Machine) (name value : Text) : Machine :=
  if machine.isFixed name then machine.complain ("read: " ++ name ++ ": is read only") 2
  else machine.assign name value

/-- Splits a line among names. The last one takes what is left of it. -/
def splitLine (machine : Machine) : List Text → List MarkedChar → Machine
  | [], _ => machine
  | [name], line =>
      let start := line.dropWhile isBlank
      let word := start.takeWhile (!isSeparator ·)
      let after := start.drop word.length
      let afterBlanks := after.dropWhile isBlank
      let isOneWord :=
        match afterBlanks with
        | [] => true
        | marked :: rest => isSeparator marked && !isBlank marked && (rest.dropWhile isBlank).isEmpty
      let value := if isOneWord then word else (start.reverse.dropWhile isBlank).reverse
      machine.assignRead name (value.map Prod.fst)
  | name :: names, line =>
      let start := line.dropWhile isBlank
      let word := start.takeWhile (!isSeparator ·)
      let rest := (start.drop word.length).dropWhile isBlank
      let rest :=
        match rest with
        | marked :: after => if isSeparator marked then after else rest
        | [] => []
      (machine.assignRead name (word.map Prod.fst)).splitLine names rest
where
  isSeparator (marked : MarkedChar) : Bool := !marked.2 && machine.separators.contains marked.1
  isBlank (marked : MarkedChar) : Bool :=
    isSeparator marked && (marked.1 = ' ' || marked.1 = '\t' || marked.1 = '\n')

/-- The line at the front of an input. A backslash takes the next character as it is, unless that is
not wanted. -/
def markedLine (escapes : Bool) : Text → List MarkedChar
  | '\\' :: c :: rest =>
      if !escapes then ('\\', false) :: if c = '\n' then [] else markedLine escapes (c :: rest)
      else if c = '\n' then markedLine escapes rest
      else (c, true) :: markedLine escapes rest
  | c :: rest => if c = '\n' then [] else (c, false) :: markedLine escapes rest
  | [] => []

/-- How many characters the line at the front of an input takes with its line feed. -/
def lineLength (escapes : Bool) : Text → Nat
  | '\\' :: c :: rest => (if escapes then 2 + lineLength escapes rest else
      if c = '\n' then 2 else 1 + lineLength escapes (c :: rest))
  | c :: rest => if c = '\n' then 1 else 1 + lineLength escapes rest
  | [] => 0

def readInto (machine : Machine) (isRaw : Bool) (names : List Text) : Machine :=
  match names.find? fun name => !Reader.isName name with
  | some name => machine.complain ("read: " ++ name ++ ": bad variable name") 2
  | none =>
      if names.isEmpty then machine.complain "read: arg count" 2
      else
        let bytes := machine.input.rest
        let input := Text.ofOctets bytes
        let length := lineLength (!isRaw) input
        let isWhole := ((input.take length).getLast?) = some '\n'
        let left := bytes.drop (Text.toOctets (input.take length)).length
        let after := (machine.succeed.leaveInput left).splitLine names
          (markedLine (!isRaw) (input.filter (· ≠ '\x00')))
        if after.status ≠ 0 then after else { after with status := if isWhole then 0 else 1 }

/-- Reads a line of the input into variables. A prompt would be for a terminal alone. -/
def read (machine : Machine) : Bool → List Text → Machine
  | isRaw, ['-', '-'] :: names => machine.readInto isRaw names
  | isRaw, ('-' :: letter :: letters) :: words =>
      let plain := (letter :: letters).takeWhile (· = 'r')
      match (letter :: letters).drop plain.length with
      | [] => machine.read true words
      | 'p' :: prompt =>
          let isRaw := isRaw || !plain.isEmpty
          match prompt, words with
          | _ :: _, words => machine.read isRaw words
          | [], _ :: words => machine.read isRaw words
          | [], [] => machine.complain "read: No arg for -p option" 2
      | letter :: _ => machine.complain (illegal "read" letter) 2
  | isRaw, names => machine.readInto isRaw names

/-- Reads the next option of the parameters, or of other words. -/
def readOption (machine : Machine) (words : List Text) : Machine :=
  match words with
  | known :: name :: others =>
      let words := if others.isEmpty then machine.parameters else others
      let start := max 1 (((machine.value? "OPTIND").bind Text.readNat?).getD 1)
      let isSilent := known.head? = some ':'
      let open? : Option Text :=
        if machine.letterPlace = 0 ∨ start ≤ 1 then none
        else (words[start - 2]?).map (List.drop machine.letterPlace)
      let ended (next : Nat) : Machine :=
        settle ((machine.assign name "?").assign "OPTIND" (Text.ofNat next)) 0 1
      match open? with
      | some (c :: rest) => letter words known name isSilent start c rest
      | _ =>
          match words[start - 1]? with
          | some ['-', '-'] => ended (start + 1)
          | some ('-' :: c :: rest) => letter words known name isSilent (start + 1) c rest
          | _ => ended start
  | _ => machine.complain "getopts: Usage: getopts optstring var [arg...]" 2
where
  settle (machine : Machine) (letterPlace status : Nat) : Machine :=
    { machine with letterPlace, status }
  /-- The letter of an option has been found. The number is that of the word after it. -/
  letter (words : List Text) (known name : Text) (isSilent : Bool) (next : Nat) (c : Char)
      (rest : Text) : Machine :=
    let place :=
      if rest.isEmpty then 0 else ((words[next - 2]?).getD []).length - rest.length
    let finish (machine : Machine) (value : Char) (next place : Nat) : Machine :=
      settle ((machine.assign "OPTIND" (Text.ofNat next)).assign name [value]) place 0
    match (known.dropWhile (· = ':')).findIdx? (· = c) with
    | none =>
        let told :=
          if isSilent then machine.assign "OPTARG" [c]
          else
            (machine.putOutcome (.ofError ("Illegal option -" ++ [c] ++ "\n") 0)).unassign "OPTARG"
        finish told '?' next place
    | some index =>
        if (known.dropWhile (· = ':'))[index + 1]? ≠ some ':' then
          finish (machine.assign "OPTARG" []) c next place
        else if !rest.isEmpty then finish (machine.assign "OPTARG" rest) c next 0
        else
          match words[next - 1]? with
          | some value => finish (machine.assign "OPTARG" value) c (next + 1) 0
          | none =>
              if isSilent then finish (machine.assign "OPTARG" [c]) ':' next 0
              else
                let told := machine.putOutcome
                  (.ofError ("No arg for -" ++ [c] ++ " option\n") 0)
                finish (told.unassign "OPTARG") '?' next 0

end Machine

end AsmLens.Shell
