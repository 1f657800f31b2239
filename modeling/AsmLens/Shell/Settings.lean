import AsmLens.Text.Basic

namespace AsmLens.Shell

/-- The letters of the options that are switched on. -/
abbrev Settings := List Char

namespace Settings

/-- The options by their names, each with its letter if it has one. -/
def names : List (Text × Option Char) := [
  ("errexit", some 'e'), ("noglob", some 'f'), ("ignoreeof", some 'I'), ("interactive", some 'i'),
  ("monitor", some 'm'), ("noexec", some 'n'), ("stdin", some 's'), ("xtrace", some 'x'),
  ("verbose", some 'v'), ("vi", some 'V'), ("emacs", some 'E'), ("noclobber", some 'C'),
  ("allexport", some 'a'), ("notify", some 'b'), ("nounset", some 'u'), ("privileged", some 'p'),
  ("nolog", none), ("debug", none)]

def has (settings : Settings) (letter : Char) : Bool :=
  settings.contains letter

def switch (settings : Settings) (isOn : Bool) (letter : Char) : Settings :=
  let others := settings.filter (· ≠ letter)
  if isOn then letter :: others else others

/-- Switches the option of a letter, if there is one. -/
def switchLetter? (settings : Settings) (isOn : Bool) (letter : Char) : Option Settings :=
  if names.any fun entry => entry.2 = some letter then some (settings.switch isOn letter) else none

/-- Switches the option of a name, if there is one. -/
def switchName? (settings : Settings) (isOn : Bool) (name : Text) : Option Settings :=
  (names.find? fun entry => entry.1 = name).map fun entry =>
    match entry.2 with
    | some letter => settings.switch isOn letter
    | none => settings

/-- The letters that are on, in their order. -/
def shown (settings : Settings) : Text :=
  (names.filterMap Prod.snd).reverse.filter settings.has

/-- What is on and what is not, for a reader. -/
def table (settings : Settings) : Text :=
  let line (entry : Text × Option Char) : Text :=
    let value : Text := if entry.2.any settings.has then "on\n" else "off\n"
    entry.1 ++ List.replicate (16 - entry.1.length) ' ' ++ value
  "Current option settings\n" ++ names.flatMap line

/-- The commands that bring the options back. -/
def commands (settings : Settings) : Text :=
  names.flatMap fun entry =>
    let sign : Text := if entry.2.any settings.has then "-o " else "+o "
    "set " ++ sign ++ entry.1 ++ "\n"

end Settings

/-- Why words are no options. -/
inductive SettingError where
  | unknownLetter (letter : Char)
  | unknownName (sign : Char) (name : Text)

def SettingError.message : SettingError → Text
  | .unknownLetter letter => "Illegal option -" ++ [letter]
  | .unknownName sign name => "Illegal option " ++ [sign] ++ "o " ++ name

/-- Options that have been read, and the words after them. -/
structure SettingWords where
  settings : Settings
  /-- Letters that only the call of a shell knows. -/
  others : List Char := []
  /-- Whether a sign for the end of options has been there. -/
  isEnded : Bool := false
  /-- The signs of options that lack their name, which ask for a list. -/
  asked : List Char := []
  rest : List Text := []

namespace SettingWords

/-- Reads letters behind a sign. Gives the words after those that are names. -/
def readLetters (known : List Char) (sign : Char) :
    SettingWords → List Char → Except SettingError SettingWords
  | words, [] => .ok words
  | words, letter :: letters =>
      if letter = 'o' then
        match words.rest with
        | [] => readLetters known sign { words with asked := words.asked ++ [sign] } letters
        | name :: rest =>
            match words.settings.switchName? (sign = '-') name with
            | some settings => readLetters known sign { words with settings, rest } letters
            | none => .error (.unknownName sign name)
      else if known.contains letter then
        readLetters known sign { words with others := letter :: words.others } letters
      else
        match words.settings.switchLetter? (sign = '-') letter with
        | some settings => readLetters known sign { words with settings } letters
        | none => .error (.unknownLetter letter)

/-- Reads options at the front of words, with letters that are known besides them. As many words may be
read. -/
def read (known : List Char) : Nat → SettingWords → Except SettingError SettingWords
  | 0, words => .ok words
  | steps + 1, words =>
      match words.rest with
      | ['-', '-'] :: rest => .ok { words with isEnded := true, rest }
      | ['-'] :: rest =>
          .ok { words with
            settings := words.settings.switch false 'x' |>.switch false 'v'
            rest }
      | (sign :: letter :: letters) :: rest =>
          if sign = '-' ∨ sign = '+' then do
            read known steps (← readLetters known sign { words with rest } (letter :: letters))
          else .ok words
      | _ => .ok words

end SettingWords

end AsmLens.Shell
