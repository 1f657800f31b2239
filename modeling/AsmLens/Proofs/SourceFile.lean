import AsmLens.Proofs.CommandWords
import AsmLens.Proofs.CompiledName
import AsmLens.Proofs.FileTree.Preparing
import AsmLens.Proofs.FileTree.RealPath
import AsmLens.Proofs.Rejection

/-!
# The source file of a run

A run reads its source file first and compiles it under its real path afterwards. In between it prepares
the place of the object, which takes the source file away exactly where the object path stands for it.
-/

namespace AsmLens

namespace FileTree

variable {tree prepared : FileTree} {path input : Path} {place : Location} {bytes : List UInt8}
  {executable : Bool}

/-- A file that can be read under a path: it is at a place, and these are its bytes. -/
structure HoldsFile (tree : FileTree) (path : Path) (place : Location) (bytes : List UInt8)
    (executable : Bool) : Prop where
  located : tree.locate .lookup path.toText = .ok place
  entry : tree.get? place = some (.file bytes executable)

theorem readBytes_of_status {path : Text} (hstatus : tree.status path = .ok (.file bytes executable)) :
    tree.readBytes path = .ok bytes := by
  rw [readBytes, hstatus]
  rfl

theorem HoldsFile.readBytes (hholds : tree.HoldsFile path place bytes executable) :
    tree.readBytes path.toText = .ok bytes :=
  readBytes_of_status (status_eq_ok_iff.mpr ⟨place, hholds.located, hholds.entry⟩)

theorem exists_holdsFile_of_readBytes (hread : tree.readBytes path.toText = .ok bytes) :
    ∃ place executable, tree.HoldsFile path place bytes executable := by
  rw [FileTree.readBytes] at hread
  cases hstatus : tree.status path.toText with
  | error errno => simp [hstatus, bind, Except.bind] at hread
  | ok entry =>
      obtain ⟨place, hlocated, hentry⟩ := status_eq_ok_iff.mp hstatus
      cases entry with
      | file found executable =>
          obtain rfl : found = bytes := by simpa [hstatus, bind, Except.bind] using hread
          exact ⟨place, executable, hlocated, hentry⟩
      | directory => simp [hstatus, bind, Except.bind] at hread
      | link target => simp [hstatus, bind, Except.bind] at hread

/-- No path that is looked up for a source is too long for it: neither those of the links that are met
nor the one that the source resolves to. -/
structure WithinLimit (tree : FileTree) (path input : Path) : Prop where
  links : ∀ link, tree.Meets path link → link.toText.byteLength ≤ pathLimit
  input : input.toText.byteLength ≤ pathLimit

/-- Where no directory has been lost, the path that a source resolves to shows what is in the place of its
file. -/
theorem HoldsFile.status_input (hholds : tree.HoldsFile path place bytes executable)
    (hgrounded : tree.Grounded tree.workingDirectory) (hinput : tree.resolve path = .ok input)
    (hlimit : tree.WithinLimit path input)
    (hkept : ∀ location, tree.get? location = some .directory →
      prepared.get? location = some .directory)
    (hplace : ∀ target, prepared.get? place ≠ some (.link target)) :
    prepared.status input.toText =
      match prepared.get? place with
      | some entry => .ok entry
      | none => .error .noEntry := by
  obtain ⟨hdirectories, rfl⟩ :=
    resolve_eq_realPath hgrounded hlimit.links hholds.located hinput
  exact (hdirectories.mono hkept).status_absolute (ne_nil_of_get? hholds.entry (by simp)) hplace
    hlimit.input

end FileTree

/-- A line that was read is one of a file. -/
theorem SourceLocation.exists_readBytes_of_read {tree : FileTree} {path : Path} {line : Int}
    {location : SourceLocation} (hread : read tree path line = .ok location) :
    ∃ bytes, tree.readBytes path.toText = .ok bytes := by
  rw [read] at hread
  cases hcontent : content tree path with
  | error failure => simp [hcontent, bind, Except.bind] at hread
  | ok text =>
      rw [content, FileTree.readText] at hcontent
      cases hbytes : FileTree.onPath path.toText (tree.readBytes path.toText) with
      | error failure =>
          rw [hbytes] at hcontent
          cases failure <;> cases hcontent
      | ok bytes => exact ⟨bytes, (FileTree.onPath_eq_ok_iff.mp hbytes).2⟩

namespace CommandLine

variable {host : Host} {environment : Environment} {runner : Runner} {argv : List Text}
  {session : Session} {inquiry : Inquiry}

theorem Asks.exists_holdsFile (hasks : Asks environment argv session.tree inquiry) :
    ∃ place bytes executable,
      session.tree.HoldsFile inquiry.location.path place bytes executable := by
  obtain ⟨bytes, hbytes⟩ := SourceLocation.exists_readBytes_of_read hasks.reads
  obtain ⟨place, executable, hholds⟩ := FileTree.exists_holdsFile_of_readBytes hbytes
  exact ⟨place, bytes, executable, hholds⟩

/-- Nothing is called to write an inspection out. -/
theorem calls_conclude (settings : Settings) (toolchain : Toolchain) (context : Int)
    (result : Except Failure Inspection) (session : Session) :
    (conclude settings toolchain context result session).2.calls = session.calls := by
  cases result with
  | error failure =>
      cases failure with
      | os error => exact Session.calls_record ..
      | _ => rfl
  | ok inspection =>
      obtain ⟨ending, after, hpresents⟩ :=
        exists_presents settings toolchain context inspection session
      have hafter : (conclude settings toolchain context (.ok inspection) session).2 = after :=
        congrArg Prod.snd hpresents.present_eq
      rw [hafter]
      cases hpresents <;> simp

/-- What the compiler's first call comes from. -/
theorem exists_asks_of_first_call {call : Call}
    (hcall : (run host environment runner argv session).2.calls[session.calls.length]? = some call) :
    ∃ inquiry object language input, Asks environment argv session.tree inquiry ∧
      inquiry.object host = .ok object ∧
      Language.ofFile? inquiry.location.path.toText = some language ∧
      session.tree.resolve inquiry.location.path = .ok input ∧
      ObjectFile.prepare object session.tree = (.ok (), call.tree) ∧
      ShellWords.split (CompileCommand.lineOf inquiry.toolchain language input.toText
        object.toText) = .ok call.argv := by
  rcases stops_or_asks environment argv session.tree with ⟨result, hstops⟩ | ⟨inquiry, hasks⟩
  · have huntouched := @untouched_of_stops host environment runner argv session result hstops
    rw [huntouched.2, List.getElem?_eq_none (Nat.le_refl _)] at hcall
    cases hcall
  · rw [run_of_asks hasks, calls_conclude,
      ← calls_equipped session inquiry.arguments.settings inquiry.toolchain] at hcall
    cases hobject : inquiry.object host with
    | error failure =>
        rw [Inquiry.inspected_of_placeless hobject, List.getElem?_eq_none (Nat.le_refl _)] at hcall
        cases hcall
    | ok object =>
        rw [Inquiry.inspected_of_object hobject] at hcall
        obtain ⟨language, input, hlanguage, hinput⟩ :=
          Inspection.exists_resolve_of_first_call hcall
        obtain ⟨words, prepared, hprepare, hwords, rfl⟩ :=
          Inspection.exists_of_first_call hlanguage hinput hcall
        rw [tree_equipped] at hinput hprepare
        exact ⟨inquiry, object, language, input, hasks, hobject, hlanguage, hinput, hprepare, hwords⟩

/-- What the compiler's call finds of the file that a source path led to, at its place and under the
path that the source resolves to. -/
structure Finds (tree : FileTree) (source object : Path) (place : Location) (bytes : List UInt8)
    (executable : Bool) (input : Path) (call : Call) : Prop where
  resolves : tree.resolve source = .ok input
  keeps : ¬ ObjectFile.StandsAt tree object place →
    call.tree.get? place = some (.file bytes executable)
  loses : ObjectFile.StandsAt tree object place → call.tree.get? place = none
  reads : tree.WithinLimit source input → ¬ ObjectFile.StandsAt tree object place →
    call.tree.readBytes input.toText = .ok bytes
  misses : tree.WithinLimit source input → ObjectFile.StandsAt tree object place →
    call.tree.status input.toText = .error .noEntry

theorem finds_of_prepare {tree : FileTree} {source object input : Path} {place : Location}
    {bytes : List UInt8} {executable : Bool} {call : Call}
    (hgrounded : tree.Grounded tree.workingDirectory)
    (hholds : tree.HoldsFile source place bytes executable)
    (hinput : tree.resolve source = .ok input)
    (hprepare : ObjectFile.prepare object tree = (.ok (), call.tree)) :
    Finds tree source object place bytes executable input call := by
  have hdirectories : ∀ location, tree.get? location = some .directory →
      call.tree.get? location = some .directory :=
    fun location => ObjectFile.get?_directory_of_prepare hprepare
  have hkeeps : ¬ ObjectFile.StandsAt tree object place →
      call.tree.get? place = some (.file bytes executable) := fun hapart =>
    (ObjectFile.get?_of_prepare hprepare hholds.entry).resolve_right fun hstands =>
      hapart hstands.1
  have hloses : ObjectFile.StandsAt tree object place → call.tree.get? place = none :=
    ObjectFile.get?_eq_none_of_prepare hprepare
  refine ⟨hinput, hkeeps, hloses, fun hlimit hapart => ?_, fun hlimit hstands => ?_⟩
  · have hkept := hkeeps hapart
    have hstatus :=
      hholds.status_input hgrounded hinput hlimit hdirectories (by simp [hkept])
    rw [hkept] at hstatus
    exact FileTree.readBytes_of_status hstatus
  · have hgone := hloses hstands
    rw [hholds.status_input hgrounded hinput hlimit hdirectories (by simp [hgone]), hgone]

/-- Preparing the object takes the source file away only where the object path stands for it. The
compiler is given the path that the source resolves to, and reads the same bytes there, unless the source
file has been taken away or a path is too long to be looked up. -/
theorem source_survives_unless_object_stands_there
    (hgrounded : session.tree.Grounded session.tree.workingDirectory) :
    (∀ inquiry, Asks environment argv session.tree inquiry →
      ∃ place bytes executable,
        session.tree.HoldsFile inquiry.location.path place bytes executable ∧
        ∀ object, inquiry.object host = .ok object → ∀ result prepared,
          ObjectFile.prepare object session.tree = (result, prepared) →
            prepared.get? place = some (.file bytes executable) ∨
              (ObjectFile.StandsAt session.tree object place ∧ prepared.get? place = none)) ∧
    ∀ call,
      (run host environment runner argv session).2.calls[session.calls.length]? = some call →
      ∃ inquiry object language input place bytes executable,
        Asks environment argv session.tree inquiry ∧
        inquiry.object host = .ok object ∧
        session.tree.readBytes inquiry.location.path.toText = .ok bytes ∧
        session.tree.HoldsFile inquiry.location.path place bytes executable ∧
        Language.ofFile? inquiry.location.path.toText = some language ∧
        ShellWords.split (CompileCommand.lineOf inquiry.toolchain language input.toText
          object.toText) = .ok call.argv ∧
        (∀ compiler flags,
          ShellWords.split (inquiry.toolchain.compiler language) = .ok compiler →
          ShellWords.split (inquiry.toolchain.flags language) = .ok flags →
            call.argv = compiler ++ flags ++
              (["-g", "-c", "-o", object.toText, input.toText] : List Text)) ∧
        Finds session.tree inquiry.location.path object place bytes executable input call := by
  constructor
  · intro inquiry hasks
    obtain ⟨place, bytes, executable, hholds⟩ := hasks.exists_holdsFile
    refine ⟨place, bytes, executable, hholds, fun object hobject result prepared hprepare => ?_⟩
    refine (ObjectFile.get?_of_prepare hprepare hholds.entry).imp id ?_
    exact fun ⟨hstands, _, hgone⟩ => ⟨hstands, hgone⟩
  · intro call hcall
    obtain ⟨inquiry, object, language, input, hasks, hobject, hlanguage, hinput, hprepare, hwords⟩ :=
      exists_asks_of_first_call hcall
    obtain ⟨place, bytes, executable, hholds⟩ := hasks.exists_holdsFile
    refine ⟨inquiry, object, language, input, place, bytes, executable, hasks, hobject,
      hholds.readBytes, hholds, hlanguage, hwords, ?_,
      finds_of_prepare hgrounded hholds hinput hprepare⟩
    intro compiler flags hcompiler hflags
    have hsplit := ShellWords.split_lineOf hasks.configures.equips hcompiler hflags input.toText
      object.toText
    exact Except.ok.inj (hwords.symm.trans hsplit)

/-- A tree where a link leads to the directory of the source file. -/
def outlyingTree : FileTree :=
  ⟨["w"], [(["l", "w"], .link "d"), (["f.c", "d", "w"], .file [10] false), (["d", "w"], .directory),
    (["w"], .directory)]⟩

/-- The only link that is met on the way to the source file is the one to its directory. -/
theorem eq_of_meets_outlyingTree {link : Path}
    (hmeets : outlyingTree.Meets (Path.ofText "l/f.c") link) : link = Path.ofText "l" := by
  have hinside : FileTree.Trail outlyingTree ⟨.relative, []⟩ ["d"] [] 0 ⟨.relative, ["d"]⟩ :=
    .enter (by unfold FileTree.IsPlainName; decide) (fun target hlink => by cases hlink) .arrived
  have hrest : FileTree.Trail outlyingTree ⟨.relative, ["d"]⟩ ["f.c"] [] 0
      ⟨.relative, ["d", "f.c"]⟩ :=
    .enter (by unfold FileTree.IsPlainName; decide) (fun target hlink => by cases hlink) .arrived
  have hentry : outlyingTree.get? (outlyingTree.locationOf ((⟨.relative, []⟩ : Path).down "l")) =
      some (.link "d") := rfl
  have htrail : FileTree.Trail outlyingTree ⟨.relative, []⟩ ["l", "f.c"] [⟨.relative, ["l"]⟩] 1
      ⟨.relative, ["d", "f.c"]⟩ :=
    .link (by unfold FileTree.IsPlainName; decide) hentry hinside hrest
  obtain ⟨met, count, there, hlink, hother⟩ := hmeets
  obtain ⟨rfl, _⟩ := htrail.unique hother
  exact List.mem_singleton.mp hlink

theorem not_standsAt_outlyingTree :
    ¬ ObjectFile.StandsAt outlyingTree (Path.ofText "x.o") ["f.c", "d", "w"] := by
  rintro ⟨made, hmade, _, hslot⟩
  have hunchanged : TreeAction.makeDirectories (Path.ofText "x.o").parent outlyingTree =
      (.ok (), outlyingTree) :=
    TreeAction.makeDirectories_of_isDirectory (by decide +kernel)
  obtain rfl := (Prod.mk.inj (hunchanged.symm.trans hmade)).2
  have hother : outlyingTree.slot? (Path.ofText "x.o").toText = .ok (some ["x.o", "w"]) := by
    decide +kernel
  exact absurd (hother.symm.trans hslot) (by decide)

theorem source_survives_in_linked_directory :
    (run bareHost (fun _ => none) .idle ["l/f.c", "--object-path", "x.o"]
      (.start outlyingTree .warning)).2.calls[0]? =
        some ⟨["cc", "-march=native", "-g", "-c", "-o", "x.o", "/w/d/f.c"], true, outlyingTree⟩ ∧
    outlyingTree.readBytes "l/f.c" = .ok [10] ∧ outlyingTree.readBytes "/w/d/f.c" = .ok [10] := by
  have hgrounded : outlyingTree.Grounded outlyingTree.workingDirectory :=
    .inside ⟨by unfold FileTree.IsEntryName; decide, by decide, by decide⟩ rfl .root
  have hread : Arguments.read ["l/f.c", "--object-path", "x.o"] =
      .ok ⟨"l/f.c", { objectPath := some "x.o" }⟩ := rfl
  have hposition : position outlyingTree ⟨"l/f.c", { objectPath := some "x.o" }⟩ =
      .ok (Path.ofText "l/f.c", some 1) := rfl
  have hresolved : outlyingTree.resolve (Path.ofText "l/f.c") = .ok (Path.ofText "/w/d/f.c") := by
    decide +kernel
  have hplace : outlyingTree.locate .lookup (Path.ofText "l/f.c").toText = .ok ["f.c", "d", "w"] := by
    decide +kernel
  have hcall : (run bareHost (fun _ => none) .idle ["l/f.c", "--object-path", "x.o"]
      (.start outlyingTree .warning)).2.calls[0]? =
        some ⟨["cc", "-march=native", "-g", "-c", "-o", "x.o", "/w/d/f.c"], true, outlyingTree⟩ := by
    decide +kernel
  obtain ⟨_, hcalls⟩ := @source_survives_unless_object_stands_there bareHost (fun _ => none) .idle
    ["l/f.c", "--object-path", "x.o"] (.start outlyingTree .warning) hgrounded
  obtain ⟨inquiry, object, language, input, place, bytes, executable, hasks, hobject, hbytes, hholds,
    _, _, _, hfinds⟩ := hcalls _ hcall
  have harguments := Except.ok.inj (hread.symm.trans hasks.configures.reads)
  have hpoints := hasks.points
  change position outlyingTree inquiry.arguments = _ at hpoints
  rw [← harguments, hposition] at hpoints
  have hpath : Path.ofText "l/f.c" = inquiry.location.path := (Prod.mk.inj (Except.ok.inj hpoints)).1
  have hplain : inquiry.object bareHost = .ok (Path.ofText "x.o") := by
    rw [Inquiry.object, ← harguments]
    rfl
  obtain rfl := Except.ok.inj (hplain.symm.trans hobject)
  rw [← hpath] at hbytes hholds hfinds
  obtain rfl := Except.ok.inj (hplace.symm.trans hholds.located)
  obtain rfl := Except.ok.inj (hresolved.symm.trans hfinds.resolves)
  have hlimit : outlyingTree.WithinLimit (Path.ofText "l/f.c") (Path.ofText "/w/d/f.c") := by
    refine ⟨fun link hlink => ?_, by decide⟩
    rw [eq_of_meets_outlyingTree hlink]
    decide
  have hsame := hfinds.reads hlimit not_standsAt_outlyingTree
  have hentry : outlyingTree.get? ["f.c", "d", "w"] = some (.file [10] false) := rfl
  obtain ⟨rfl, rfl⟩ := Entry.file.inj (Option.some.inj (hentry.symm.trans hholds.entry))
  exact ⟨hcall, hbytes, hsame⟩

/-- A name of nearly the greatest length, told from others by its first letter. -/
def longName (letter : Nat) : Text :=
  Char.ofNat ('a'.toNat + letter) :: List.replicate 62 '𝄞'

/-- A location so many long names below another one, with the first letter in the innermost place. -/
def farBelow (first count : Nat) (above : Location) : Location :=
  (List.range' first count).map longName ++ above

/-- A tree where the paths of the files in the working directory are too long. -/
def deepTree : FileTree :=
  (FileTree.bare (farBelow 0 17 [])).insert (("f.c" : Text) :: farBelow 0 17 []) (.file [] false)

/-- A tree where two links lead so far down that the path of a third one is too long, which leads back
near the source file. -/
def farTree : FileTree :=
  ⟨["w"],
    ([(["f.c", "w"], .file [] false), (["k", "k", "k", "w"], .directory),
      (["k", "k", "w"], .directory), (["k", "w"], .directory),
      (["l", "w"], .link (Text.join "/" (farBelow 2 15 []).reverse)),
      (("m" : Text) :: farBelow 2 15 ["w"], .link (Text.join "/" (farBelow 0 2 []).reverse)),
      (("z" : Text) :: farBelow 0 17 ["w"], .link "/w/k/k/k")] : List (Location × Entry)) ++
    (FileTree.bare (farBelow 0 17 ["w"])).entries⟩

/-- A source file that is named as the object file too is lost before the compiler is called. Where a path
is too long, the compiler does not find the source file though it is still there. -/
theorem source_is_lost_to_object_path :
    (sourceTree.readBytes "f.c" = .ok [] ∧
      (run bareHost (fun _ => none) .idle ["f.c", "--object-path", "f.c"]
        (.start sourceTree .warning)).2.calls[0]? =
          some ⟨["cc", "-march=native", "-g", "-c", "-o", "f.c", "/w/f.c"], true,
            sourceTree.erase ["f.c", "w"]⟩ ∧
      (sourceTree.erase ["f.c", "w"]).readBytes "/w/f.c" = .error .noEntry) ∧
    (deepTree.readBytes "f.c" = .ok [] ∧
      deepTree.resolve (Path.ofText "f.c") =
        .ok (FileTree.realPath (("f.c" : Text) :: farBelow 0 17 [])) ∧
      (ObjectFile.prepare (Path.ofText "x.o") deepTree).2.readBytes
        (FileTree.absolute (("f.c" : Text) :: farBelow 0 17 [])) = .error .nameTooLong) ∧
    farTree.readBytes "l/m/z/../../../f.c" = .ok [] ∧
      farTree.resolve (Path.ofText "l/m/z/../../../f.c") =
        .ok (FileTree.realPath (("f.c" : Text) :: farBelow 2 15 ["w"])) ∧
      (ObjectFile.prepare (Path.ofText "x.o") farTree).2.readBytes
        (FileTree.absolute (("f.c" : Text) :: farBelow 2 15 ["w"])) = .error .noEntry := by
  refine ⟨?_, ?_, ?_⟩
  · decide +kernel
  · decide +kernel
  · decide +kernel

end CommandLine

end AsmLens
