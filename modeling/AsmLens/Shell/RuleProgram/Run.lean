import AsmLens.Shell.RuleProgram.Machine
import AsmLens.Shell.RuleProgram.Rules
import AsmLens.Text.Search

namespace AsmLens.Shell

/-- What a program of rules needs while it runs. -/
structure RuleSetting where
  program : RuleProgram
  execute : Execution

namespace RuleRun

/-- The regular expression that a text writes. -/
def regexOf (text : Text) : RuleRun Regex := do
  match Regex.read .escaped text with
  | .ok regex => return regex
  | .error _ => fail ("regular expression compile failed\n" ++ text)

/-- Writes values in a format. -/
def formatted (name : Text) (values : List RuleValue) : RuleRun (Text × RuleRun Unit) := do
  match values with
  | [] => return ([], pure ())
  | first :: values =>
      let format ← textOf first
      let conversion ← sharedText "CONVFMT"
      let (text, complaint) := RuleText.format conversion (format.length + 1) 0 format values
      match complaint with
      | none => return (text, pure ())
      | some message => return (text, fail (message ++ name ++ "(\"" ++ format ++ "\")"))

/-- The text of a value as it is printed. -/
def printedText (value : RuleValue) : RuleRun Text := do
  match value with
  | .number number => return numberText ((← sharedValue "OFMT").toText []) number
  | other => return other.toText []

/-- What a loop does: whether it goes on after its body. -/
def turn (body : RuleRun Unit) : RuleRun Bool :=
  tryCatch (do body; return true) fun
    | .continuing => return true
    | .breaking => return false
    | other => throw other

/-- Replaces what is found in a place. -/
def substitute (regex : Regex) (new : Text) (replacesAll : Bool) (place : RulePlace) :
    RuleRun RuleValue := do
  let text ← textOf (← read place)
  let (count, replaced) :=
    RuleText.substitute regex new replacesAll (text.length + 2) none true text
  if count ≠ 0 then assign place (.text replaced)
  return .ofNat count

def splitInto (array : Nat) (text : Text) (separator : RuleSeparator) : RuleRun RuleValue := do
  let fields := separator.fields text
  setArray array (if fields.isEmpty then {} else .ofValues (fields.map .input))
  return .ofNat fields.length

/-- Looks for an expression and notes where it is found. -/
def matchPlace (regex : Regex) (text : Text) : RuleRun RuleValue := do
  let (start, length) : Float × Float :=
    match regex.find? {} none text with
    | some found => (Float.ofNat (found.skipped.length + 1), Float.ofNat found.matched.length)
    | none => (0.0, -1.0)
  assign (.variable (.shared "RSTART")) (.number start)
  assign (.variable (.shared "RLENGTH")) (.number length)
  return .number start

/-- The place of a text in another one, counted from one on. -/
def indexOf (needle text : Text) : Nat :=
  if needle.isEmpty then 0
  else ((Text.offsetOf? needle text).map (· + 1)).getD 0

/-- The functions that look at numbers only. -/
def numeric (primitive : RulePrimitive) (arguments : List Float) : RuleRun RuleValue := do
  let first := arguments.headD 0.0
  match primitive with
  | .sine => return .number first.sin
  | .cosine => return .number first.cos
  | .arctangent => return .number (Float.atan2 first (arguments.getD 1 0.0))
  | .exponential => return .number first.exp
  | .logarithm => return .number first.log
  | .squareRoot => return .number first.sqrt
  | .integer => return .number (if first < 0.0 then first.ceil else first.floor)
  | .seed =>
      let machine ← get
      let seed := (((Real.ofFloat first).truncated?).getD 0).toNat
      set { machine with seed, chance := seed }
      return .ofNat machine.seed
  | .random =>
      let machine ← get
      let next := (machine.chance * 1103515245 + 12345) % 2147483648
      set { machine with chance := next }
      return .number (Float.ofNat next / 2147483648.0)
  | _ => return .unset

/-- The functions that look at texts, and those that work with files and commands. -/
def textual (setting : RuleSetting) (primitive : RulePrimitive) (arguments : List RuleValue) :
    RuleRun RuleValue := do
  let first ← textOf (arguments.headD .unset)
  match primitive with
  | .length =>
      if arguments.isEmpty then return .ofNat (← get).record.length else return .ofNat first.length
  | .substr =>
      let length? := (arguments[2]?).map RuleValue.toNumber
      return .text (RuleText.portion first (arguments.getD 1 .unset).toNumber length?)
  | .index => return .ofNat (indexOf (← textOf (arguments.getD 1 .unset)) first)
  | .sprintf =>
      let (text, ending) ← formatted "sprintf" arguments
      ending
      return .text text
  | .lower => return .text (first.map Char.toLower)
  | .upper => return .text (first.map Char.toUpper)
  | .system =>
      flushAll setting.execute
      let (_, status, input) ← command setting.execute "sh" first (← get).input false
      modify fun machine => { machine with input }
      return .ofNat status
  | .close =>
      match ← close setting.execute first with
      | some status => return .ofNat status
      | none => return .number (-1.0)
  | .flush =>
      if arguments.isEmpty ∨ (← get).sinks.any fun sink => sink.name = first then
        flushAll setting.execute
        return .ofNat 0
      else return .number (-1.0)
  | other => numeric other (arguments.map RuleValue.toNumber)

mutual

def eval (setting : RuleSetting) : Nat → RuleExpr → RuleRun RuleValue
  | 0, _ => throw .failure
  | steps + 1, expression => do
      match expression with
      | .number value => return .number value
      | .text content => return .text content
      | .regex regex => return .ofBool (regex.isIn {} (← get).record)
      | .variable name => value name
      | .field index => field (← fieldIndex (← eval setting steps index))
      | .element _ _ => read (← place setting steps expression)
      | .assign target source =>
          let target ← place setting steps target
          let new ← eval setting steps source
          assign target new
          return new
      | .update target operator source =>
          let target ← place setting steps target
          let change ← eval setting steps source
          let before ← read target
          let new := .number (operator.apply before.toNumber change.toNumber)
          assign target new
          return new
      | .step target isUp givesNew =>
          let target ← place setting steps target
          let before := (← read target).toNumber
          let new := before + (if isUp then 1.0 else -1.0)
          assign target (.number new)
          return .number (if givesNew then new else before)
      | .choice condition first second =>
          if (← eval setting steps condition).isTrue then eval setting steps first
          else eval setting steps second
      | .conjunction first second =>
          if (← eval setting steps first).isTrue then
            return .ofBool (← eval setting steps second).isTrue
          else return .ofBool false
      | .disjunction first second =>
          if (← eval setting steps first).isTrue then return .ofBool true
          else return .ofBool (← eval setting steps second).isTrue
      | .negation operand => return .ofBool !(← eval setting steps operand).isTrue
      | .sign isMinus operand =>
          let number := (← eval setting steps operand).toNumber
          return .number (if isMinus then -number else number)
      | .binary operator first second =>
          let first ← eval setting steps first
          let second ← eval setting steps second
          return .number (operator.apply first.toNumber second.toNumber)
      | .compare comparison first second =>
          let first ← eval setting steps first
          let second ← eval setting steps second
          let format ← sharedText "CONVFMT"
          return .ofBool (RuleValue.compare format comparison first second)
      | .joined first second =>
          let first ← textOf (← eval setting steps first)
          let second ← textOf (← eval setting steps second)
          return .text (first ++ second)
      | .search isNegated text pattern =>
          let text ← textOf (← eval setting steps text)
          let regex ← regexIn setting steps pattern
          return .ofBool (regex.isIn {} text != isNegated)
      | .membership subscripts name =>
          let key ← keyOf setting steps subscripts
          let number ← arrayOf name
          let found := (← array number).ask key false
          setArray number found
          return .ofBool (found.has key.shown)
      | .group inside => eval setting steps inside
      | .call name arguments => call setting steps name arguments
      | .primitive primitive arguments => callPrimitive setting steps primitive arguments
      | .readRecord target =>
          match ← nextRecord 1000000 with
          | none => return .ofNat 0
          | some record =>
              store setting steps target record
              return .ofNat 1
      | .readFile target name =>
          let name ← textOf (← eval setting steps name)
          received setting steps target (← nextOf setting.execute name false)
      | .readCommand target command =>
          let command ← textOf (← eval setting steps command)
          received setting steps target (← nextOf setting.execute command true)

/-- Puts a line that has been read into its place, and tells whether there was one. -/
def received (setting : RuleSetting) : Nat → Option RuleExpr → Option (Option Text) → RuleRun RuleValue
  | 0, _, _ => throw .failure
  | steps + 1, target, line => do
      match line with
      | none => return .number (-1.0)
      | some none => return .ofNat 0
      | some (some line) =>
          store setting steps target line
          return .ofNat 1

def store (setting : RuleSetting) : Nat → Option RuleExpr → Text → RuleRun Unit
  | 0, _, _ => throw .failure
  | steps + 1, target, line => do
      match target with
      | none => setRecord line
      | some target => assign (← place setting steps target) (.input line)

def evalAll (setting : RuleSetting) : Nat → List RuleExpr → RuleRun (List RuleValue)
  | 0, _ => throw .failure
  | _, [] => return []
  | steps + 1, first :: rest => do
      let value ← eval setting steps first
      return value :: (← evalAll setting steps rest)

/-- The place that an expression tells. -/
def place (setting : RuleSetting) : Nat → RuleExpr → RuleRun RulePlace
  | 0, _ => throw .failure
  | steps + 1, expression => do
      match expression with
      | .variable name => return .variable name
      | .field index => return .field (← fieldIndex (← eval setting steps index))
      | .element name subscripts =>
          let key ← keyOf setting steps subscripts
          return .element (← arrayOf name) key
      | _ => throw .failure

/-- The key that subscripts make up. -/
def keyOf (setting : RuleSetting) : Nat → List RuleExpr → RuleRun RuleKey
  | 0, _ => throw .failure
  | steps + 1, subscripts => do
      match ← evalAll setting steps subscripts with
      | [.number number] =>
          match wholeNumber? number with
          | some whole => return .number whole
          | none => return .text (← textOf (.number number))
      | values =>
          let texts ← values.mapM textOf
          return .text (Text.join (← sharedText "SUBSEP") texts)

/-- The regular expression that an operand stands for. -/
def regexIn (setting : RuleSetting) : Nat → RuleExpr → RuleRun Regex
  | 0, _ => throw .failure
  | steps + 1, expression => do
      match expression with
      | .regex regex => return regex
      | other => regexOf (← textOf (← eval setting steps other))

/-- What an argument stands for in a function. An array stays the same array there, and so does a
variable that may become one. -/
def argument (setting : RuleSetting) : Nat → RuleExpr → RuleRun RuleBinding
  | 0, _ => throw .failure
  | steps + 1, expression => do
      match expression with
      | .variable name =>
          match ← binding name with
          | .unset none =>
              let number := (← get).arrays.size
              modify fun machine => { machine with arrays := machine.arrays.push {} }
              bind name (.unset (some number))
              return .unset (some number)
          | .value _ => return .value (← value name)
          | other => return other
      | other => return .value (← eval setting steps other)

def arguments (setting : RuleSetting) : Nat → List RuleExpr → RuleRun (List RuleBinding)
  | 0, _ => throw .failure
  | _, [] => return []
  | steps + 1, first :: rest => do
      let binding ← argument setting steps first
      return binding :: (← arguments setting steps rest)

def call (setting : RuleSetting) : Nat → Text → List RuleExpr → RuleRun RuleValue
  | 0, _, _ => throw .failure
  | steps + 1, name, given => do
      match setting.program.functions.find? fun function => function.name = name with
      | none => throw .failure
      | some function =>
          let bindings ← arguments setting steps given
          let before := (← get).parameters
          let missing := List.replicate (function.parameters - bindings.length) (RuleBinding.unset none)
          modify fun machine => { machine with parameters := bindings ++ missing }
          let result ← tryCatch (do exec setting steps function.body; return .unset) fun
            | .returning value => return value
            | other => throw other
          modify fun machine => { machine with parameters := before }
          return result

def callPrimitive (setting : RuleSetting) :
    Nat → RulePrimitive → List RuleExpr → RuleRun RuleValue
  | 0, _, _ => throw .failure
  | steps + 1, primitive, given => do
      match primitive, given with
      | .length, [.variable name] =>
          match ← binding name with
          | .array number => return .ofNat (← array number).elements.length
          | .unset (some number) => return .ofNat (← array number).elements.length
          | _ => textual setting .length [← value name]
      | .matchPlace, [text, pattern] =>
          let text ← textOf (← eval setting steps text)
          matchPlace (← regexIn setting steps pattern) text
      | .split, text :: .variable name :: separator =>
          let text ← textOf (← eval setting steps text)
          let number ← arrayOf name
          match separator with
          | .regex regex :: _ => splitInto number text (.regex regex)
          | other :: _ =>
              splitInto number text (← separatorOf (← textOf (← eval setting steps other)))
          | [] => splitInto number text (← separatorOf (← sharedText "FS"))
      | .substitute replacesAll, [pattern, new, target] =>
          let regex ← regexIn setting steps pattern
          let new ← textOf (← eval setting steps new)
          substitute regex new replacesAll (← place setting steps target)
      | _, _ => textual setting primitive (← evalAll setting steps given)

/-- Where the output of a statement goes. -/
def outputOf (setting : RuleSetting) :
    Nat → Option (RuleOutput × RuleExpr) → RuleRun (Option (RuleOutput × Text))
  | 0, _ => throw .failure
  | steps + 1, output => do
      match output with
      | none => return none
      | some (kind, name) => return some (kind, ← textOf (← eval setting steps name))

def exec (setting : RuleSetting) : Nat → RuleStatement → RuleRun Unit
  | 0, _ => throw .failure
  | steps + 1, statement => do
      match statement with
      | .expression expression =>
          let _ ← eval setting steps expression
      | .print arguments output =>
          let texts ←
            if arguments.isEmpty then pure [(← get).record]
            else (← evalAll setting steps arguments).mapM printedText
          let output ← outputOf setting steps output
          emit output (Text.join (← sharedText "OFS") texts ++ (← sharedText "ORS"))
      | .printf arguments output =>
          let values ← evalAll setting steps arguments
          let output ← outputOf setting steps output
          let (text, ending) ← formatted "printf" values
          emit output text
          ending
      | .branch condition yes no =>
          if (← eval setting steps condition).isTrue then exec setting steps yes
          else exec setting steps no
      | .loop condition body => loop setting steps (some condition) none body
      | .repeated body condition =>
          if ← turn (exec setting steps body) then loop setting steps (some condition) none body
      | .counted start condition step body =>
          if let some start := start then
            let _ ← eval setting steps start
          loop setting steps condition step body
      | .each key name body =>
          let number ← arrayOf name
          let (keys, named) := (← array number).keys
          setArray number named
          each setting steps key keys body
      | .block statements => execAll setting steps statements
      | .breaking => throw .breaking
      | .continuing => throw .continuing
      | .next => throw .next
      | .nextFile =>
          modify fun machine => { machine with current := none }
          throw .next
      | .exit status =>
          if let some status := status then
            let value ← eval setting steps status
            let whole := ((Real.ofFloat value.toNumber).truncated?).getD 0
            modify fun machine => { machine with status := (whole % 256).toNat }
          throw .exit
      | .return result =>
          match result with
          | none => throw (.returning .unset)
          | some result => throw (.returning (← eval setting steps result))
      | .delete name subscripts =>
          let number ← arrayOf name
          if subscripts.isEmpty then setArray number {}
          else
            let key ← keyOf setting steps subscripts
            setArray number ((← array number).erase key)

def execAll (setting : RuleSetting) : Nat → List RuleStatement → RuleRun Unit
  | 0, _ => throw .failure
  | _, [] => pure ()
  | steps + 1, first :: rest => do
      exec setting steps first
      execAll setting steps rest

/-- Does the body of a loop while its condition is true. -/
def loop (setting : RuleSetting) :
    Nat → Option RuleExpr → Option RuleExpr → RuleStatement → RuleRun Unit
  | 0, _, _, _ => throw .failure
  | steps + 1, condition, step, body => do
      let goesOn ←
        match condition with
        | none => pure true
        | some condition => pure (← eval setting steps condition).isTrue
      if goesOn then
        if ← turn (exec setting steps body) then
          if let some step := step then
            let _ ← eval setting steps step
          loop setting steps condition step body

/-- Does the body of a loop for each of some keys. -/
def each (setting : RuleSetting) : Nat → RuleVariable → List Text → RuleStatement → RuleRun Unit
  | 0, _, _, _ => throw .failure
  | _, _, [], _ => pure ()
  | steps + 1, name, key :: rest, body => do
      assign (.variable name) (.text key)
      if ← turn (exec setting steps body) then each setting steps name rest body

end

/-- How deep programs go. -/
def depth : Nat := 100000000

/-- Whether a rule applies to the record. -/
def applies (setting : RuleSetting) (pattern : RulePattern) : RuleRun Bool := do
  let test (condition : RuleExpr) : RuleRun Bool := do
    return (← eval setting depth condition).isTrue
  match pattern with
  | .first | .last => return false
  | .always => return true
  | .condition condition => test condition
  | .range number start finish =>
      let isActive := (← get).active.contains number
      if isActive || (← test start) then
        let ends ← test finish
        modify fun machine =>
          { machine with
            active :=
              if ends then machine.active.filter (· ≠ number)
              else if isActive then machine.active
              else number :: machine.active }
        return true
      else return false

def body (setting : RuleSetting) (rule : Rule) : RuleRun Unit :=
  exec setting depth (rule.body.getD (.print [] none))

/-- Goes through all records. As many steps are allowed. -/
def records (setting : RuleSetting) : Nat → RuleRun Unit
  | 0 => throw .failure
  | steps + 1 => do
      match ← nextRecord 1000000 with
      | none => pure ()
      | some record =>
          setRecord record
          tryCatch
            (setting.program.rules.forM fun rule => do
              if ← applies setting rule.pattern then body setting rule)
            fun
              | .next => pure ()
              | other => throw other
          records setting steps

/-- Runs all rules for some moment besides the records. -/
def moment (setting : RuleSetting) (isMeant : RulePattern → Bool) : RuleRun Unit :=
  setting.program.rules.forM fun rule =>
    if isMeant rule.pattern then body setting rule else pure ()

def isFirst : RulePattern → Bool
  | .first => true
  | _ => false

def isLast : RulePattern → Bool
  | .last => true
  | _ => false

/-- Runs a program. What it writes at its end comes after an exit, too. -/
def whole (setting : RuleSetting) : RuleRun Unit := do
  let untilExit (part : RuleRun Unit) : RuleRun Unit :=
    tryCatch part fun
      | .failure => throw .failure
      | _ => pure ()
  untilExit do
    moment setting isFirst
    if !setting.program.rules.all fun rule => isFirst rule.pattern then
      records setting depth
  untilExit (moment setting isLast)

end RuleRun

namespace Invocation

/-- The options of a program of rules: the separator of fields, the variables that are set, the files
with rules, and what is left. -/
structure RuleOptions where
  separator : Option Text := none
  assignments : List Text := []
  files : List Text := []
  operands : List Text := []

/-- Reads the options of a program of rules, or tells what is wrong with them. As many steps are
allowed. -/
def ruleOptions : Nat → RuleOptions → List Text → Except Text RuleOptions
  | 0, options, _ => .ok options
  | _, options, [] => .ok options
  | steps + 1, options, word :: rest =>
      let given (letter : Char) (value : Text) (rest : List Text) : Except Text RuleOptions :=
        if letter = 'F' then ruleOptions steps { options with separator := some value } rest
        else if letter = 'v' then
          let name := value.takeWhile isWordChar
          let isAssignment : Bool := !name.isEmpty && !name.head?.any Char.isDigit &&
            (value.drop name.length).head? = some '='
          if !isAssignment then .error ("improper assignment: -v " ++ value)
          else ruleOptions steps { options with assignments := options.assignments ++ [value] } rest
        else ruleOptions steps { options with files := options.files ++ [value] } rest
      match word with
      | ['-', '-'] => .ok { options with operands := rest }
      | ['-'] => .ok { options with operands := word :: rest }
      | '-' :: letter :: value =>
          if ['F', 'v', 'f'].contains letter then
            match value, rest with
            | [], [] => .error ("option -" ++ [letter] ++ " lacks argument")
            | [], value :: rest => given letter value rest
            | value, rest => given letter value rest
          else .error ("not an option: " ++ word)
      | _ => .ok { options with operands := word :: rest }

/-- Runs a program of rules on the records of files. -/
def awk (invocation : Invocation) : Effect :=
  let refuse (message : Text) : Effect :=
    invocation.report (.ofError ("awk: " ++ message ++ "\n") 2)
  let arguments := invocation.arguments.map byteText
  match ruleOptions (arguments.length + 1) {} arguments with
  | .error message => refuse message
  | .ok options =>
      let texts : Except Text (List Text) := options.files.mapM fun name =>
        match invocation.read (readableText name) with
        | .ok bytes => .ok (textOfBytes bytes)
        | .error errno => .error ("cannot open \"" ++ name ++ "\" (" ++ errno.text ++ ")")
      let isGiven := options.files.isEmpty
      match isGiven, options.operands, texts with
      | true, [], _ =>
          invocation.report (.ofError
            "usage: awk \x5b-F value\x5d \x5b-v var=value\x5d program \x5bfile ...\x5d\n" 2)
      | _, _, .error message => refuse message
      | _, operands, .ok texts =>
          let (label, text) : Text × Text :=
            if isGiven then ("awk: ", operands.headD [])
            else ("awk: " ++ options.files.headD [] ++ ": ", Text.join "\n" texts)
          let words : List Text := "awk" :: (if isGiven then operands.tail else operands)
          match RuleProgram.read label text with
          | .error complaints =>
              invocation.report ⟨[(.errors, octetsOf complaints.flatten)], 2⟩
          | .ok program =>
              let setting : RuleSetting := ⟨program, invocation.execute⟩
              let preset (name : String) (content : String) : Text × RuleBinding :=
                (name.toList, .value (.text content.toList))
              let settings : List (Text × RuleBinding) := [preset "CONVFMT" "%.6g",
                preset "OFMT" "%.6g", preset "FS" " ", preset "OFS" " ", preset "ORS" "\n",
                preset "RS" "\n", preset "SUBSEP" "\x1c", ("NR", .value (.ofNat 0)),
                ("FNR", .value (.ofNat 0)), ("RSTART", .value (.ofNat 0)),
                ("RLENGTH", .value (.number (-1.0))), ("ARGC", .value (.ofNat words.length)),
                ("ARGV", .array 0), ("ENVIRON", .array 1)]
              let argv : RuleArray := words.zipIdx.foldl
                (fun array (word, index) =>
                  (array.ask (.number index) true).set (Text.ofNat index) (.input word)) {}
              let environ : RuleArray := invocation.bindings.foldl
                (fun array (name, value) =>
                  (array.ask (.text (byteText name)) true).set (byteText name)
                    (.input (byteText value))) {}
              let machine : RuleMachine := {
                tree := invocation.tree
                input := invocation.input
                shared := settings
                arrays := #[argv, environ] }
              let run : RuleRun Unit := do
                options.assignments.forM fun assignment => do
                  let _ ← RuleRun.assignArgument? assignment
                if let some separator := options.separator then
                  RuleRun.assign (.variable (.shared "FS"))
                    (.text (RuleScanner.unescaped (separator.length + 1) separator))
                RuleRun.whole setting
              let (_, ended) := run.run.run machine
              let (_, closed) := (RuleRun.closeAll invocation.execute).run.run ended
              ⟨closed.tree, closed.input, ⟨closed.written.reverse, closed.status⟩⟩

end Invocation

end AsmLens.Shell
