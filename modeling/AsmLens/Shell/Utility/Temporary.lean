import AsmLens.Shell.Utility.Names

namespace AsmLens.Shell

/-- The name of a file that is new in its directory: what stands before some letters, how many these are,
and what stands behind them. -/
structure NameTemplate where
  start : Text
  letters : Nat
  suffix : Text

namespace NameTemplate

/-- The template in a word. Without a suffix of its own the word ends its letters at the last `X`. -/
def ofText (word : Text) (suffix : Option Text) : Except Text NameTemplate := do
  let reversed := word.reverse
  let split : Text × Text ←
    match suffix with
    | some suffix =>
        if word.getLast? = some 'X' then .ok (word, suffix)
        else .error ("with --suffix, template " ++ curled word ++ " must end in X")
    | none =>
        if word.contains 'X' then
          .ok ((reversed.dropWhile (· ≠ 'X')).reverse, (reversed.takeWhile (· ≠ 'X')).reverse)
        else .ok (word, [])
  let letters := (split.1.reverse.takeWhile (· = 'X')).length
  if split.2.contains '/' then
    .error ("invalid suffix " ++ curled split.2 ++ ", contains directory separator")
  else if letters < 3 then
    .error ("too few X's in template " ++ curled word)
  else .ok ⟨split.1.take (split.1.length - letters), letters, split.2⟩

/-- The word that a template is written as. -/
def text (template : NameTemplate) : Text :=
  template.start ++ List.replicate template.letters 'X' ++ template.suffix

/-- The name by a number, which is spelled with small letters. -/
def name (template : NameTemplate) (number : Nat) : Text :=
  template.start ++ ((List.range template.letters).map fun place =>
    Char.ofNat (97 + number / Nat.pow 26 place % 26)) ++ template.suffix

/-- The first name that nothing in a tree has. So many numbers are tried. -/
def free (template : NameTemplate) (tree : FileTree) : Nat → Nat → Text
  | 0, number => template.name number
  | tries + 1, number =>
      match tree.status (template.name number) with
      | .ok _ => free template tree tries (number + 1)
      | .error _ => template.name number

end NameTemplate

namespace Invocation

/-- Makes a file or a directory with a name of its own. -/
def mktemp (invocation : Invocation) : Effect :=
  invocation.reading "V d=directory p: ::=tmpdir q=quiet :=suffix t u=dry-run" 1 fun options =>
    match options.operands with
    | _ :: _ :: _ => invocation.misuse "too many templates" 1
    | operands =>
        let word : Text := operands.headD "tmp.XXXXXXXXXX"
        let isPlaced := operands.isEmpty || options.has "p" || options.has "tmpdir" || options.has "t"
        let asked := [options.value? "p", options.value? "tmpdir"].filterMap id
        let given := ([invocation.environment "TMPDIR"].filterMap id).filter (· ≠ [])
        let wanted := asked.filter (· ≠ [])
        let directory : Text :=
          ((if options.has "t" then given ++ wanted else wanted ++ given).head?).getD "/tmp"
        match NameTemplate.ofText word (options.value? "suffix") with
        | .error text => invocation.refuse text 1
        | .ok template =>
            if isPlaced && options.has "t" && word.contains '/' then
              invocation.refuse
                ("invalid template, " ++ curled word ++ ", contains directory separator") 1
            else if isPlaced && word.head? = some '/' then
              invocation.refuse
                ("invalid template, " ++ curled word ++ "; with --tmpdir, it may not be absolute") 1
            else
              let isSlashed : Bool := directory.getLast? = some '/'
              let above : Text :=
                if isPlaced then directory ++ (if isSlashed then [] else ['/']) else []
              let template := { template with start := above ++ template.start }
              let path := template.free invocation.tree 10000 0
              let isDirectory := options.has "d"
              let made : Except Errno FileTree :=
                if options.has "u" then .ok invocation.tree
                else if isDirectory then invocation.tree.makeDirectory path
                else invocation.tree.writeBytes path []
              match made with
              | .ok tree => { invocation.report (.ofText (path ++ "\n")) with tree }
              | .error errno =>
                  let kind : Text := if isDirectory then "directory" else "file"
                  if options.has "q" then invocation.report (.ofStatus 1)
                  else
                    invocation.refuse ("failed to create " ++ kind ++ " via template " ++
                      curled template.text ++ ": " ++ errno.text) 1

end Invocation

end AsmLens.Shell
