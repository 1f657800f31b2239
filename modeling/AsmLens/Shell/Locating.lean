import AsmLens.Shell.Program

namespace AsmLens.Shell

namespace Program

/-- Whether there is a program at a path. -/
def isAt (tree : FileTree) (path : Text) : Bool :=
  match systemKind? tree path, tree.status path with
  | some _, _ | none, .ok (.file _ true) => true
  | _, _ => false

/-- The paths of the programs that a word can mean, the one that it does mean first. -/
def paths (tree : FileTree) (directories : List Text) (word : Text) : List Text :=
  let asked :=
    if word.contains '/' then [word]
    else directories.map fun directory =>
      (if directory.isEmpty then ['.'] else directory) ++ "/" ++ word
  asked.filter (isAt tree)

end Program

namespace Invocation

/-- The letters in front of some words, and the words after them. A letter out of place ends it. -/
def locatingLetters : List Text → Except Char (Text × List Text)
  | ['-', '-'] :: rest => .ok ([], rest)
  | ('-' :: c :: letters) :: rest =>
      match (c :: letters).find? fun letter => letter ≠ 'a' && letter ≠ 's' with
      | some letter => .error letter
      | none => (locatingLetters rest).map fun (more, words) => (c :: letters ++ more, words)
  | words => .ok ([], words)

/-- Tells where programs are. -/
def which (invocation : Invocation) (directories : List Text) : Effect :=
  match locatingLetters invocation.arguments with
  | .error letter =>
      invocation.report <|
        (Outcome.ofError ("Illegal option -" ++ [letter] ++ "\n") 2).append
          ⟨[(.output, Text.encode "Usage: /usr/bin/which [-as] args\n")], 2⟩
  | .ok (letters, words) =>
      let found := words.map fun word =>
        let paths := Program.paths invocation.tree directories word
        if letters.contains 'a' then paths else paths.take 1
      let shown : Text := found.flatten.flatMap fun path => path ++ "\n"
      invocation.report ⟨[(.output, if letters.contains 's' then [] else shown.encode)],
        if words.isEmpty || found.any List.isEmpty then 1 else 0⟩

end Invocation

end AsmLens.Shell
