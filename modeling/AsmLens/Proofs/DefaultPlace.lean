import AsmLens.ObjectFile
import AsmLens.Proofs.FileTree.LastName

/-!
# The place of a user's object

The default path of an object is made of the temporary directory, a directory named for the user and the
name of the object file. A login is read as a part of a path, so it names a directory of its own only
where it holds no slash: with slashes, logins share their paths, and two dots lead out again.
-/

namespace AsmLens

namespace Text

theorem cut_append_of_not_mem {separator : Char} {front text piece : Text} {pieces : List Text}
    (hfree : separator ∉ front) (hcut : cut separator text = piece :: pieces) :
    cut separator (front ++ text) = (front ++ piece) :: pieces := by
  induction front with
  | nil => exact hcut
  | cons c front ih =>
      have hne := List.ne_of_not_mem_cons hfree
      exact cut_cons_of_ne hne.symm (ih (List.not_mem_of_not_mem_cons hfree))

end Text

namespace Path

/-- A path goes on from a directory by names that never lead up. -/
structure Below (directory path : Path) : Prop where
  root_eq : path.root = directory.root
  names_eq : ∃ names : List Text,
    names ≠ [] ∧ (".." : Text) ∉ names ∧ path.names = directory.names ++ names

theorem append_of_relative {path below : Path} (hrelative : below.root = .relative) :
    path.append below = { path with names := path.names ++ below.names } := by
  rw [append, hrelative]

end Path

namespace Environment

variable {environment : Environment} {login : Text}

theorem exists_variable_of_login? (hlogin : environment.login? = some login) :
    login ≠ [] ∧ ∃ name ∈ loginVariables, environment name = some login := by
  obtain ⟨name, hmem, hvalue⟩ := List.exists_of_findSome?_eq_some hlogin
  obtain ⟨hset, hne⟩ := Option.filter_eq_some_iff.mp hvalue
  exact ⟨by simpa using hne, name, hmem, hset⟩

end Environment

namespace ObjectFile

/-- The directories that a login stands for: one with all that comes before the first slash in its name,
and those that are named after it. -/
def directoryNames (login : Text) : List Text :=
  match Text.cut '/' login with
  | [] => []
  | first :: rest => ("lineasm-" ++ first) :: rest.filter Path.isName

variable {login other : Text}

theorem directoryNames_of_cut {first : Text} {rest : List Text}
    (hcut : Text.cut '/' login = first :: rest) :
    directoryNames login = ("lineasm-" ++ first) :: rest.filter Path.isName := by
  rw [directoryNames, hcut]

theorem directoryNames_of_not_mem (hslash : '/' ∉ login) :
    directoryNames login = ["lineasm-" ++ login] :=
  directoryNames_of_cut (Text.cut_of_not_mem hslash)

theorem ofText_login (login : Text) :
    Path.ofText ("lineasm-" ++ login) = ⟨.relative, directoryNames login⟩ := by
  obtain ⟨first, rest, hcut⟩ := List.exists_cons_of_ne_nil (Text.cut_ne_nil '/' login)
  have hroot : Path.rootOf ("lineasm-" ++ login) = .relative := rfl
  rw [Path.ofText, hroot, Text.cut_append_of_not_mem (by decide) hcut, directoryNames_of_cut hcut,
    List.filter_cons_of_pos (by simp [Path.isName])]

theorem slash_not_mem_of_mem_directoryNames {name : Text} (hname : name ∈ directoryNames login) :
    '/' ∉ name := by
  have hnormal := Path.normal_ofText ("lineasm-" ++ login)
  rw [ofText_login] at hnormal
  exact (hnormal name hname).2.2

theorem defaultPath_eq (temporaryDirectory login : Text) :
    defaultPath temporaryDirectory login =
      { Path.ofText temporaryDirectory with
        names := (Path.ofText temporaryDirectory).names ++ (directoryNames login ++ [fileName]) } := by
  rw [defaultPath, ofText_login, Path.append_of_relative rfl, Path.append_of_relative rfl,
    ← List.append_assoc]
  rfl

theorem defaultPath_eq_iff {temporaryDirectory : Text} :
    defaultPath temporaryDirectory login = defaultPath temporaryDirectory other ↔
      directoryNames login = directoryNames other := by
  simp [defaultPath_eq]

/-- The object file is in a directory that is named for the login and stands in the temporary one. -/
def HasOwnDirectory (temporaryDirectory login : Text) : Prop :=
  defaultPath temporaryDirectory login =
    ((Path.ofText temporaryDirectory).down ("lineasm-" ++ login)).down "lineasm.o"

theorem hasOwnDirectory_iff {temporaryDirectory : Text} :
    HasOwnDirectory temporaryDirectory login ↔ '/' ∉ login := by
  have hnames : HasOwnDirectory temporaryDirectory login ↔
      directoryNames login = ["lineasm-" ++ login] := by
    simp only [HasOwnDirectory, defaultPath_eq, Path.down, Path.mk.injEq, true_and,
      List.append_assoc, List.append_cancel_left_eq]
    exact List.append_left_inj _
  rw [hnames]
  constructor
  · intro hdirectory hslash
    have hmem : "lineasm-" ++ login ∈ directoryNames login := by
      rw [hdirectory]
      exact List.mem_singleton_self _
    exact slash_not_mem_of_mem_directoryNames hmem (List.mem_append_right _ hslash)
  · exact directoryNames_of_not_mem

theorem eq_of_defaultPath_eq {temporaryDirectory : Text} (hlogin : '/' ∉ login)
    (hother : '/' ∉ other)
    (hsame : defaultPath temporaryDirectory login = defaultPath temporaryDirectory other) :
    login = other := by
  rw [defaultPath_eq_iff, directoryNames_of_not_mem hlogin, directoryNames_of_not_mem hother] at hsame
  exact List.append_cancel_left (List.singleton_injective hsame)

/-- A slash at the end of a login names nothing. -/
theorem directoryNames_append_slash (login : Text) :
    directoryNames (login ++ ['/']) = directoryNames login := by
  obtain ⟨first, rest, hcut⟩ := List.exists_cons_of_ne_nil (Text.cut_ne_nil '/' login)
  have happend : Text.cut '/' (login ++ ['/']) = first :: (rest ++ [[]]) := by
    rw [Text.cut_append, hcut]
    rfl
  rw [directoryNames_of_cut happend, directoryNames_of_cut hcut, List.filter_append,
    List.filter_cons_of_neg (by decide), List.filter_nil, List.append_nil]

/-- Two dots lead up unless they are at the beginning of the login. -/
theorem dots_mem_directoryNames_iff :
    (".." : Text) ∈ directoryNames login ↔ (".." : Text) ∈ (Text.cut '/' login).tail := by
  obtain ⟨first, rest, hcut⟩ := List.exists_cons_of_ne_nil (Text.cut_ne_nil '/' login)
  rw [directoryNames_of_cut hcut, hcut, List.tail_cons, List.mem_cons, List.mem_filter]
  simp [Path.isName]

theorem below_defaultPath_iff {temporaryDirectory : Text} :
    (Path.ofText temporaryDirectory).Below (defaultPath temporaryDirectory login) ↔
      (".." : Text) ∉ (Text.cut '/' login).tail := by
  have hfile : (".." : Text) ∈ directoryNames login ++ [fileName] ↔
      (".." : Text) ∈ directoryNames login := by
    rw [List.mem_append, or_iff_left (by decide)]
  rw [← dots_mem_directoryNames_iff, ← hfile, defaultPath_eq]
  constructor
  -- The names below a directory are determined by both paths, so there is but one choice of them.
  · rintro ⟨_, names, _, hdots, hnames⟩
    rwa [List.append_cancel_left hnames]
  · intro hdots
    exact ⟨rfl, _, List.append_ne_nil_of_right_ne_nil _ (List.cons_ne_nil _ _), hdots, rfl⟩

/-- Logins have directories and paths of their own exactly if they hold no slash. Two logins share a path
exactly if they stand for the same directories, as each does with one that has a slash more at its end, and
the path leads up exactly if there are two dots behind a slash. The login is the value of a variable, if
one tells it. -/
theorem default_path_is_private_iff (temporaryDirectory login other : Text) :
    (HasOwnDirectory temporaryDirectory login ∧ HasOwnDirectory temporaryDirectory other ∧
        (login ≠ other →
          defaultPath temporaryDirectory login ≠ defaultPath temporaryDirectory other) ↔
      '/' ∉ login ∧ '/' ∉ other) ∧
    (defaultPath temporaryDirectory login = defaultPath temporaryDirectory other ↔
      directoryNames login = directoryNames other) ∧
    defaultPath temporaryDirectory (login ++ ['/']) = defaultPath temporaryDirectory login ∧
    ((Path.ofText temporaryDirectory).Below (defaultPath temporaryDirectory login) ↔
      (".." : Text) ∉ (Text.cut '/' login).tail) ∧
    (∀ host : Host, host.environment.login? = some login →
      (login ≠ [] ∧ ∃ name ∈ Environment.loginVariables, host.environment name = some login) ∧
        ∀ directory, host.temporaryDirectory = .ok directory →
          defaultPathOn host = .ok (defaultPath directory login)) := by
  refine ⟨?_, defaultPath_eq_iff, ?_, below_defaultPath_iff, ?_⟩
  · rw [hasOwnDirectory_iff, hasOwnDirectory_iff]
    constructor
    · rintro ⟨hlogin, hother, _⟩
      exact ⟨hlogin, hother⟩
    · rintro ⟨hlogin, hother⟩
      exact ⟨hlogin, hother, fun hne hsame => hne (eq_of_defaultPath_eq hlogin hother hsame)⟩
  · rw [defaultPath_eq_iff, directoryNames_append_slash]
  · intro host hlogin
    refine ⟨Environment.exists_variable_of_login? hlogin, fun directory hdirectory => ?_⟩
    rw [defaultPathOn, Host.login, hlogin, hdirectory]
    rfl

/-- A machine where a variable tells the login. -/
def hostOf (login : Text) : Host :=
  ⟨[("LOGNAME", login)], .ok "/tmp/", .named "root", "Linux"⟩

theorem default_path_is_private_iff_between_users :
    defaultPathOn (hostOf "..") = .ok (Path.ofText "/tmp/lineasm-../lineasm.o") ∧
    defaultPathOn (hostOf "..") ≠ defaultPathOn (hostOf "a b") ∧
    (Path.ofText "/tmp/").Below (defaultPath "/tmp/" "..") := by
  obtain ⟨hprivate, _, _, hbelow, hdots⟩ := default_path_is_private_iff "/tmp/" ".." "a b"
  obtain ⟨_, _, _, _, hblank⟩ := default_path_is_private_iff "/tmp/" "a b" ".."
  obtain ⟨hown, _, hdiffer⟩ := hprivate.mpr ⟨by decide, by decide⟩
  rw [(hdots (hostOf "..") rfl).2 _ rfl, (hblank (hostOf "a b") rfl).2 _ rfl]
  exact ⟨congrArg Except.ok (hown.trans (by decide)),
    fun hsame => hdiffer (by decide) (Except.ok.inj hsame), hbelow.mpr (by decide)⟩

/-- A tree with the object of somebody else, outside of the temporary directory. -/
def neighbourTree : FileTree :=
  ⟨["w"], [(["lineasm.o", "home"], .file [7] false), (["home"], .directory), (["tmp"], .directory),
    (["w"], .directory)]⟩

/-- A slash at the end makes another login with the same path; one in the middle takes the object out of
the login's directory, and out of the temporary one, where preparing it removes what stands there. -/
theorem slash_in_login_shares_and_escapes :
    ((hostOf "a").login ≠ (hostOf "a/").login ∧
      defaultPathOn (hostOf "a") = defaultPathOn (hostOf "a/")) ∧
    (defaultPathOn (hostOf "a/b")).map Path.parent ≠ .ok ((Path.ofText "/tmp/").down "lineasm-a/b") ∧
    (defaultPathOn (hostOf "a/../../home")).map Path.collapse = .ok (Path.ofText "/home/lineasm.o") ∧
    neighbourTree.get? ["lineasm.o", "home"] = some (.file [7] false) ∧
    (defaultPathOn (hostOf "a/../../home")).map
      (fun object => (prepare object neighbourTree).2.get? ["lineasm.o", "home"]) = .ok none := by
  decide +kernel

end ObjectFile

end AsmLens
