import AsmLens.Shell.RuleProgram.Run
import AsmLens.Shell.StreamEditor.Run
import AsmLens.Shell.Utility.Bytes
import AsmLens.Shell.Utility.Calendar
import AsmLens.Shell.Utility.Checksum
import AsmLens.Shell.Utility.Condition
import AsmLens.Shell.Utility.Copying
import AsmLens.Shell.Utility.Counting
import AsmLens.Shell.Utility.Difference
import AsmLens.Shell.Utility.Expression
import AsmLens.Shell.Utility.Fields
import AsmLens.Shell.Utility.Finding
import AsmLens.Shell.Utility.Launching
import AsmLens.Shell.Utility.Layout
import AsmLens.Shell.Utility.Listing
import AsmLens.Shell.Utility.Names
import AsmLens.Shell.Utility.Searching
import AsmLens.Shell.Utility.Sorting
import AsmLens.Shell.Utility.Splitting
import AsmLens.Shell.Utility.Temporary
import AsmLens.Shell.Utility.Transfer
import AsmLens.Shell.Utility.Tree
import AsmLens.Shell.Utility.Writing

namespace AsmLens.Shell

/-- The programs that work on files and their names. -/
def fileUtilities : List (Text × (Invocation → Effect)) := [
  ("[", Invocation.test),
  ("basename", Invocation.basename),
  ("chmod", Invocation.chmod),
  ("cp", Invocation.cp),
  ("dirname", Invocation.dirname),
  ("find", Invocation.find),
  ("link", Invocation.link),
  ("ln", Invocation.ln),
  ("ls", Invocation.ls),
  ("mkdir", Invocation.mkdir),
  ("mktemp", Invocation.mktemp),
  ("mv", Invocation.mv),
  ("readlink", Invocation.readlink),
  ("realpath", Invocation.realpath),
  ("rm", Invocation.rm),
  ("rmdir", Invocation.rmdir),
  ("stat", Invocation.stat),
  ("test", Invocation.test),
  ("touch", Invocation.touch),
  ("truncate", Invocation.truncate),
  ("unlink", Invocation.unlink)]

/-- The programs that work on what files hold. -/
def textUtilities : List (Text × (Invocation → Effect)) := [
  ("awk", Invocation.awk),
  ("cat", Invocation.cat),
  ("cut", Invocation.cut),
  ("egrep", Invocation.grep),
  ("expand", Invocation.expand),
  ("fgrep", Invocation.grep),
  ("fold", Invocation.fold),
  ("grep", Invocation.grep),
  ("head", fun invocation => invocation.copyPortion '-' Portion.ofStart),
  ("join", Invocation.join),
  ("mawk", Invocation.awk),
  ("nl", Invocation.nl),
  ("od", Invocation.od),
  ("paste", Invocation.paste),
  ("rev", Invocation.rev),
  ("sed", Invocation.sed),
  ("sort", Invocation.sort),
  ("tac", Invocation.tac),
  ("tail", fun invocation => invocation.copyPortion '+' Portion.ofEnd),
  ("tee", Invocation.tee),
  ("tr", Invocation.tr),
  ("unexpand", Invocation.unexpand),
  ("uniq", Invocation.uniq),
  ("wc", Invocation.wc)]

/-- The programs that compare files, or work on their bytes. -/
def byteUtilities : List (Text × (Invocation → Effect)) := [
  ("base32", Invocation.recode .base32),
  ("base64", Invocation.recode .base64),
  ("cksum", Invocation.cksum),
  ("cmp", Invocation.cmp),
  ("comm", Invocation.comm),
  ("dd", Invocation.dd),
  ("diff", Invocation.diff),
  ("split", Invocation.split),
  ("sum", Invocation.sum)]

/-- The programs that tell digests. -/
def digestUtilities : List (Text × (Invocation → Effect)) :=
  DigestKind.all.map fun (name, kind) => (name, Invocation.digests kind)

/-- The programs that run others. -/
def launchingUtilities : List (Text × (Invocation → Effect)) := [
  ("nice", Invocation.nice),
  ("nohup", Invocation.nohup),
  ("timeout", Invocation.timeout),
  ("xargs", Invocation.xargs)]

/-- The programs that write something of their own. -/
def otherUtilities : List (Text × (Invocation → Effect)) := [
  ("arch", Invocation.fixedLine (.ofText "x86_64\n")),
  ("date", Invocation.date),
  ("echo", fun invocation => invocation.report (echo invocation.arguments)),
  ("expr", Invocation.expr),
  ("factor", Invocation.factor),
  ("false", fun invocation => invocation.report (.ofStatus 1)),
  ("groups", Invocation.groups),
  ("id", Invocation.userId),
  ("logname", Invocation.fixedLine (.ofError "logname: no login name\n" 1)),
  ("printenv", Invocation.printenv),
  ("printf", fun invocation =>
    invocation.report (printf .program (invocation.name ++ ": ") invocation.arguments)),
  ("pwd", Invocation.pwd),
  ("seq", Invocation.seq),
  ("sleep", Invocation.sleep),
  ("sync", fun invocation => invocation.report {}),
  ("true", fun invocation => invocation.report {}),
  ("tty", Invocation.tty),
  ("uname", Invocation.uname),
  ("users", Invocation.fixedLine {}),
  ("who", Invocation.fixedLine {}),
  ("whoami", Invocation.whoami),
  ("yes", Invocation.yes)]

/-- A program of the system by its name. -/
def utility? (name : Text) : Option (Invocation → Effect) :=
  let utilities := fileUtilities ++ textUtilities ++ byteUtilities ++ digestUtilities ++
    launchingUtilities ++ otherUtilities
  (utilities.find? fun entry => entry.1 = name).map Prod.snd

end AsmLens.Shell
