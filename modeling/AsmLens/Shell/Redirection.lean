import AsmLens.Shell.Expansion

namespace AsmLens.Shell

namespace Machine

/-- The descriptor that a path under the devices stands for. -/
def deviceDescriptor? (path : Text) : Option Nat :=
  if path = "/dev/stdin" then some 0
  else if path = "/dev/stdout" then some 1
  else if path = "/dev/stderr" then some 2
  else if "/dev/fd/".toList.isPrefixOf path then
    let digits := path.drop 8
    if digits ≠ [] ∧ digits.all Char.isDigit then Text.readNat? digits else none
  else none

/-- Opens a file for output. -/
def openOutput (machine : Machine) (path : Text) (mode : OutputMode) :
    Except Errno (Machine × Sink) :=
  if path = "/dev/null" then
    .ok (machine, .nowhere)
  else
    match deviceDescriptor? path with
    | some number =>
        match machine.sink number with
        | .closed => .error .noEntry
        | sink => .ok (machine, sink)
    | none => do
        let location ← machine.tree.locate .create path
        match machine.tree.get? location with
        | none =>
            .ok ({ machine with tree := machine.tree.insert location (.file [] false) },
              .file location)
        | some (.file bytes executable) =>
            if mode = .empties ∧ machine.settings.has 'C' then .error .exists
            else
              let kept := if mode = .appends ∨ mode = .keeps then bytes else []
              .ok ({ machine with
                tree := machine.tree.insert location (.file kept executable) }, .file location)
        | some .directory => .error .isDirectory
        | some (.link _) => .error .tooManyLinks

/-- What can be read at a path, and where it is tied to. -/
def openInput (machine : Machine) (path : Text) : Except Errno (Sink ⊕ Source) :=
  if path = "/dev/null" then .ok (.inl .nowhere)
  else
    match deviceDescriptor? path with
    | some number =>
        match machine.sink number with
        | .closed => .error .noEntry
        | sink => .ok (.inl sink)
    | none =>
        match machine.tree.readBytes path with
        | .ok bytes => .ok (.inr ⟨bytes, true⟩)
        | .error .isDirectory => .ok (.inr ⟨[], true⟩)
        | .error errno => .error errno

/-- The text of an error, where absence has a word of its own. -/
def reason (absent : Text) : Errno → Text
  | .noEntry | .notDirectory => absent
  | errno => errno.text

/-- Ties one descriptor anew. A document that cannot be expanded does not end the script. -/
def redirectOne (capture : Capture) (machine : Machine) (redirect : Redirect) :
    Except Machine Machine :=
  let connectInput (after : Machine) (path : Text) : Except Machine Machine :=
    match after.openInput path with
    | .ok (.inl sink) => .ok (after.connect redirect.descriptor sink)
    | .ok (.inr source) => .ok (after.connectSource redirect.descriptor source)
    | .error errno =>
        .error (after.complainHere
          ("cannot open " ++ path ++ ": " ++ reason "No such file" errno) 2)
  match redirect.target with
  | .output word mode =>
      let (after, path) := machine.expandText capture word
      if !after.isRunning then .error after
      else
        match after.openOutput path mode with
        | .ok (opened, sink) =>
            if mode = .keeps ∧ redirect.descriptor = 0 then connectInput opened path
            else .ok (opened.connect redirect.descriptor sink)
        | .error errno =>
            .error (after.complainHere
              ("cannot create " ++ path ++ ": " ++ reason "Directory nonexistent" errno) 2)
  | .input word =>
      let (after, path) := machine.expandText capture word
      if after.isRunning then connectInput after path else .error after
  | .document word =>
      let (after, content) := machine.expandText capture word
      if after.isRunning then .ok (after.connectSource redirect.descriptor ⟨content.encode, false⟩)
      else .error { after with ending := machine.ending }
  | .descriptor word =>
      let (after, text) := machine.expandText capture word
      if !after.isRunning then .error after
      else
        match text with
        | ['-'] => .ok (after.connect redirect.descriptor .closed)
        | [digit] =>
            if !digit.isDigit then .error (badDescriptor after)
            else
              let number := digit.toNat - '0'.toNat
              match after.sink number with
              | .closed =>
                  .error (after.complainHere (Text.ofNat number ++ ": Bad file descriptor") 2)
              | sink => .ok (after.connect redirect.descriptor sink)
        | _ => .error (badDescriptor after)
where
  badDescriptor (machine : Machine) : Machine :=
    machine.abortHere ("Syntax error: " ++ ScriptError.badDescriptor.message)

/-- Ties descriptors anew, one after the other, until one fails. -/
def redirect (capture : Capture) (machine : Machine) (redirects : List Redirect) :
    Except Machine Machine :=
  redirects.foldlM (redirectOne capture) machine

/-- Gives the descriptors back that were tied anew for a command. -/
def giveBack (before machine : Machine) : Machine :=
  { machine with descriptors := before.descriptors }

end Machine

end AsmLens.Shell
