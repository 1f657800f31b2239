import AsmLens.FileTree.Files
import AsmLens.Runner.Basic

namespace AsmLens

namespace FileTree

/-- Puts an entry at a path, with the directories above it. A file is written through links and
stays executable if it was, and a link is made where nothing is. -/
def install (tree : FileTree) (path : Text) (entry : Entry) : FileTree :=
  let above := (TreeAction.makeDirectories (Path.ofText path).parent tree).2
  match entry with
  | .directory => (TreeAction.makeDirectories (Path.ofText path) tree).2
  | .link target =>
      match above.slot? path with
      | .ok (some location) =>
          if (above.get? location).isNone then above.insert location (.link target) else above
      | _ => above
  | .file bytes executable =>
      match above.locate .create path with
      | .ok location =>
          match above.get? location with
          | none => above.insert location (.file bytes executable)
          | some (.file _ wasExecutable) =>
              above.insert location (.file bytes (executable || wasExecutable))
          | some _ => above
      | .error _ => above

def installAll (tree : FileTree) (entries : List (Text × Entry)) : FileTree :=
  entries.foldl (fun changed entry => changed.install entry.1 entry.2) tree

end FileTree

/-- What a scripted runner does at one call: it fails to start, or it puts entries into the tree,
writes an object file if it is to, and replies. -/
structure ScriptedReply where
  error : Option OsError
  entries : List (Text × Entry)
  writesObject : Bool
  reply : Reply

namespace ScriptedReply

/-- A program that does nothing and succeeds. -/
def silent : ScriptedReply :=
  ⟨none, [], false, ⟨0, [], []⟩⟩

/-- The word after the first `-o`, if there is one. -/
def outputWord? : List Text → Option Text
  | [] | [_] => none
  | word :: next :: rest => if word = "-o" then some next else outputWord? (next :: rest)

def objectBytes : List UInt8 :=
  [0x7f, 0x45, 0x4c, 0x46]

def play (script : ScriptedReply) (call : Call) : Except StartError Reply × FileTree :=
  match script.error with
  | some error => (.error (.os error), call.tree)
  | none =>
      let tree := call.tree.installAll script.entries
      match (if script.writesObject then outputWord? call.argv else none) with
      | none => (.ok script.reply, tree)
      | some path =>
          if path.contains '\x00' then
            (.error .nulByte, tree)
          else
            match tree.writeBytes path objectBytes with
            | .ok written => (.ok script.reply, written)
            | .error errno => (.error (.os (errno.at path)), tree)

end ScriptedReply

/-- A runner that answers its calls from a list; past its end all programs are silent. -/
def Runner.scripted (script : List ScriptedReply) : Runner where
  announces := false
  answer position call := (script.getD position .silent).play call

end AsmLens
