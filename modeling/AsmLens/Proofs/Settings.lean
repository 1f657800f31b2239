import AsmLens.Toolchain
import Mathlib.Data.List.DropRight

/-!
# Settings

A toolchain has eight settings, and each is read from one variable of its own. What is read is trimmed,
so that it is read again as it is. A blank value stands for the default, but it switches flags off.
-/

namespace AsmLens

namespace Text

theorem isBlank_head?_strip {text : Text} {c : Char} (hfirst : text.strip.head? = some c) :
    isBlank c = false := by
  obtain ⟨after, hafter⟩ : text.strip <+: text.stripLeft :=
    List.rdropWhile_prefix isBlank text.stripLeft
  have hne : text.strip ≠ [] := by
    intro hnil
    rw [hnil] at hfirst
    cases hfirst
  have hhead := List.head?_dropWhile_not isBlank text
  rw [← stripLeft, ← hafter, List.head?_append_of_ne_nil _ hne, hfirst] at hhead
  exact hhead

theorem strip_strip (text : Text) : text.strip.strip = text.strip := by
  have hleft : text.strip.stripLeft = text.strip := by
    cases hstrip : text.strip with
    | nil => rfl
    | cons c rest =>
        have hc : isBlank c = false := isBlank_head?_strip (by rw [hstrip]; rfl)
        exact List.dropWhile_cons_of_neg (by simp [hc])
  rw [strip, hleft]
  exact List.rdropWhile_idempotent isBlank text.stripLeft

end Text

inductive Toolchain.Setting where
  | cCompiler
  | cxxCompiler
  | fortranCompiler
  | cFlags
  | cxxFlags
  | fortranFlags
  | disassembler
  | presenter
  deriving DecidableEq, Repr

namespace Toolchain.Setting

def variableName : Setting → Text
  | .cCompiler => "CC"
  | .cxxCompiler => "CXX"
  | .fortranCompiler => "FORTRAN"
  | .cFlags => "CFLAGS"
  | .cxxFlags => "CXXFLAGS"
  | .fortranFlags => "FFLAGS"
  | .disassembler => "LINEASM_OBJDUMP"
  | .presenter => "LINEASM_PRESENTER"

/-- What stands for a setting whose variable is not set. An empty text leaves the disassembler to the
system. -/
def fallback : Setting → Text
  | .cCompiler => "cc"
  | .cxxCompiler => "c++"
  | .fortranCompiler => "gfortran"
  | .cFlags | .cxxFlags | .fortranFlags => "-march=native"
  | .disassembler => ""
  | .presenter => "plain"

def holdsFlags : Setting → Bool
  | .cFlags | .cxxFlags | .fortranFlags => true
  | _ => false

end Toolchain.Setting

def Toolchain.setting? (toolchain : Toolchain) : Setting → Option Text
  | .cCompiler => some toolchain.cCompiler
  | .cxxCompiler => some toolchain.cxxCompiler
  | .fortranCompiler => some toolchain.fortranCompiler
  | .cFlags => some toolchain.cFlags
  | .cxxFlags => some toolchain.cxxFlags
  | .fortranFlags => some toolchain.fortranFlags
  | .disassembler => toolchain.disassembler
  | .presenter => some toolchain.presenter.name

namespace Language

def compilerSetting : Language → Toolchain.Setting
  | .cpp => .cxxCompiler
  | .c => .cCompiler
  | .fortran => .fortranCompiler

def flagsSetting : Language → Toolchain.Setting
  | .cpp => .cxxFlags
  | .c => .cFlags
  | .fortran => .fortranFlags

end Language

namespace Environment

variable {environment other : Environment} {setting : Toolchain.Setting} {name default value text : Text}

theorem wordOr_of_strip_ne_nil (hset : environment name = some value) (hvalue : value.strip ≠ [])
    (default : Text) : environment.wordOr name default = value.strip := by
  simp [wordOr, hset, hvalue]

theorem wordOr_of_strip_eq_nil (hset : environment name = some value) (hvalue : value.strip = [])
    (default : Text) : environment.wordOr name default = default := by
  simp [wordOr, hset, hvalue]

theorem eq_nil_of_wordOr_eq_nil (hempty : environment.wordOr name default = []) : default = [] := by
  cases hset : environment name with
  | none => simpa only [wordOr, hset] using hempty
  | some value =>
      by_cases hvalue : value.strip = []
      · rwa [wordOr_of_strip_eq_nil hset hvalue] at hempty
      · rw [wordOr_of_strip_ne_nil hset hvalue] at hempty
        exact absurd hempty hvalue

theorem flagsOr_of_set (hset : environment name = some value) (default : Text) :
    environment.flagsOr name default = value.strip := by
  simp only [flagsOr, hset]

/-- A default that is trimmed is read as it is, as every other value. -/
theorem strip_wordOr (environment : Environment) (name : Text) (hdefault : default.strip = default) :
    (environment.wordOr name default).strip = environment.wordOr name default := by
  unfold wordOr
  split
  · exact hdefault
  · split
    · exact hdefault
    · exact Text.strip_strip _

theorem strip_flagsOr (environment : Environment) (name : Text) (hdefault : default.strip = default) :
    (environment.flagsOr name default).strip = environment.flagsOr name default := by
  unfold flagsOr
  split
  · exact hdefault
  · exact Text.strip_strip _

theorem not_mem_wordOr {c : Char} (hvalue : ∀ value, environment name = some value → c ∉ value)
    (hdefault : c ∉ default) : c ∉ environment.wordOr name default := by
  unfold wordOr
  split
  · exact hdefault
  · next value hset =>
      split
      · exact hdefault
      · exact fun hmem => hvalue value hset (Text.mem_of_mem_strip hmem)

theorem not_mem_flagsOr {c : Char} (hvalue : ∀ value, environment name = some value → c ∉ value)
    (hdefault : c ∉ default) : c ∉ environment.flagsOr name default := by
  unfold flagsOr
  split
  · exact hdefault
  · next value hset => exact fun hmem => hvalue value hset (Text.mem_of_mem_strip hmem)

/-- The value of a setting; there is none where the disassembler is left to the system. -/
def setting? (environment : Environment) (setting : Toolchain.Setting) : Option Text :=
  if setting.holdsFlags then
    some (environment.flagsOr setting.variableName setting.fallback)
  else
    let word := environment.wordOr setting.variableName setting.fallback
    if word.isEmpty then none else some word

theorem setting?_of_word (environment : Environment) (setting : Toolchain.Setting)
    (hword : setting.holdsFlags = false) (hfallback : setting.fallback ≠ []) :
    environment.setting? setting =
      some (environment.wordOr setting.variableName setting.fallback) := by
  have hne : environment.wordOr setting.variableName setting.fallback ≠ [] :=
    fun hempty => hfallback (eq_nil_of_wordOr_eq_nil hempty)
  simp [setting?, hword, hne]

theorem setting?_congr
    (hsame : environment setting.variableName = other setting.variableName) :
    environment.setting? setting = other.setting? setting := by
  rw [setting?, setting?, wordOr, wordOr, flagsOr, flagsOr, hsame]

theorem strip_of_setting? (hread : environment.setting? setting = some text) : text.strip = text := by
  have hfallback : setting.fallback.strip = setting.fallback := by cases setting <;> decide
  unfold setting? at hread
  split at hread
  · obtain rfl := Option.some.inj hread
    exact strip_flagsOr environment _ hfallback
  · dsimp only at hread
    split at hread
    · cases hread
    · obtain rfl := Option.some.inj hread
      exact strip_wordOr environment _ hfallback

/-- A setting has no characters but those of its variable, or of what stands for it. -/
theorem not_mem_of_setting? {c : Char}
    (hvalue : ∀ value, environment setting.variableName = some value → c ∉ value)
    (hfallback : c ∉ setting.fallback) (hread : environment.setting? setting = some text) :
    c ∉ text := by
  unfold setting? at hread
  split at hread
  · obtain rfl := Option.some.inj hread
    exact not_mem_flagsOr hvalue hfallback
  · dsimp only at hread
    split at hread
    · cases hread
    · obtain rfl := Option.some.inj hread
      exact not_mem_wordOr hvalue hfallback

/-- Only flags can be empty. -/
theorem ne_nil_of_setting? (hread : environment.setting? setting = some text)
    (hword : setting.holdsFlags = false) : text ≠ [] := by
  rw [setting?, hword, if_neg Bool.false_ne_true] at hread
  dsimp only at hread
  split at hread
  · cases hread
  · next hne =>
      obtain rfl := Option.some.inj hread
      exact fun hnil => hne (List.isEmpty_iff.mpr hnil)

/-- A setting that is written back to its variable is read again as it was. -/
theorem setting?_of_written
    (hwritten : other setting.variableName = some ((environment.setting? setting).getD [])) :
    other.setting? setting = environment.setting? setting := by
  cases hflags : setting.holdsFlags with
  | true =>
      obtain ⟨text, hread⟩ : ∃ text, environment.setting? setting = some text := by
        simp only [setting?, hflags, if_true, Option.some.injEq, exists_eq']
      rw [hread] at hwritten ⊢
      rw [setting?, if_pos hflags, flagsOr_of_set hwritten]
      exact congrArg some (strip_of_setting? hread)
  | false =>
      cases hread : environment.setting? setting with
      | some text =>
          rw [hread] at hwritten
          have hstrip : Text.strip text = text := strip_of_setting? hread
          have hne : text ≠ [] := ne_nil_of_setting? hread hflags
          have hagain : other.wordOr setting.variableName setting.fallback = text := by
            rw [wordOr_of_strip_ne_nil hwritten (by rwa [Option.getD_some, hstrip]), Option.getD_some,
              hstrip]
          simp [setting?, hflags, hagain, hne]
      | none =>
          -- No value comes from an empty default only, and an empty text stands for the default.
          rw [hread] at hwritten
          have hempty : environment.wordOr setting.variableName setting.fallback = [] := by
            simpa [setting?, hflags] using hread
          have hagain : other.wordOr setting.variableName setting.fallback = [] := by
            rw [wordOr_of_strip_eq_nil hwritten rfl]
            exact eq_nil_of_wordOr_eq_nil hempty
          simp [setting?, hflags, hagain]

end Environment

namespace PresenterKind

variable {name : Text} {kind : PresenterKind} {failure : Failure}

theorem ofName_name (kind : PresenterKind) : ofName kind.name = .ok kind := by
  cases kind <;> rfl

theorem ofName_of_unknown (hunknown : ∀ kind : PresenterKind, kind.name ≠ name) :
    ofName name = .error (.unknownPresenter name) := by
  have hnone : (all.find? fun kind => kind.name = name) = none := by
    rw [List.find?_eq_none]
    intro kind _
    simpa using hunknown kind
  rw [ofName, hnone]

theorem ofName_eq_ok_iff : ofName name = .ok kind ↔ kind.name = name := by
  constructor
  · intro hkind
    by_cases hknown : ∃ other : PresenterKind, other.name = name
    · obtain ⟨other, rfl⟩ := hknown
      rw [ofName_name] at hkind
      rw [Except.ok.inj hkind]
    · rw [ofName_of_unknown (not_exists.mp hknown)] at hkind
      cases hkind
  · rintro rfl
    exact ofName_name kind

theorem ofName_eq_error_iff :
    ofName name = .error failure ↔
      (∀ kind : PresenterKind, kind.name ≠ name) ∧ failure = .unknownPresenter name := by
  constructor
  · intro herror
    have hunknown : ∀ kind : PresenterKind, kind.name ≠ name := by
      rintro kind rfl
      rw [ofName_name] at herror
      cases herror
    rw [ofName_of_unknown hunknown] at herror
    exact ⟨hunknown, (Except.error.inj herror).symm⟩
  · rintro ⟨hunknown, rfl⟩
    exact ofName_of_unknown hunknown

end PresenterKind

namespace Toolchain

variable {environment other : Environment} {toolchain otherToolchain : Toolchain} {failure : Failure}

theorem eq_of_setting? (hsame : ∀ setting, toolchain.setting? setting = otherToolchain.setting? setting) :
    toolchain = otherToolchain := by
  have hpresenter : toolchain.presenter = otherToolchain.presenter := by
    have hname := Option.some.inj (hsame .presenter)
    have hkind := PresenterKind.ofName_name toolchain.presenter
    rw [hname, PresenterKind.ofName_name] at hkind
    exact (Except.ok.inj hkind).symm
  obtain ⟨_, _, _, _, _, _, _, _⟩ := toolchain
  obtain ⟨_, _, _, _, _, _, _, _⟩ := otherToolchain
  obtain rfl := Option.some.inj (hsame .cCompiler)
  obtain rfl := Option.some.inj (hsame .cxxCompiler)
  obtain rfl := Option.some.inj (hsame .fortranCompiler)
  obtain rfl := Option.some.inj (hsame .cFlags)
  obtain rfl := Option.some.inj (hsame .cxxFlags)
  obtain rfl := Option.some.inj (hsame .fortranFlags)
  obtain rfl := hsame .disassembler
  obtain rfl := hpresenter
  rfl

/-- Once the presenter is known, every setting can be read. -/
theorem exists_of_presenter {kind : PresenterKind}
    (hkind : PresenterKind.ofName (environment.wordOr "LINEASM_PRESENTER" "plain") = .ok kind) :
    ∃ toolchain, ofEnvironment environment = .ok toolchain ∧
      ∀ setting, toolchain.setting? setting = environment.setting? setting := by
  unfold ofEnvironment
  rw [hkind]
  refine ⟨_, rfl, fun setting => ?_⟩
  cases setting with
  | cCompiler => exact (environment.setting?_of_word .cCompiler rfl (by decide)).symm
  | cxxCompiler => exact (environment.setting?_of_word .cxxCompiler rfl (by decide)).symm
  | fortranCompiler => exact (environment.setting?_of_word .fortranCompiler rfl (by decide)).symm
  | cFlags => rfl
  | cxxFlags => rfl
  | fortranFlags => rfl
  | disassembler => rfl
  | presenter =>
      rw [environment.setting?_of_word .presenter rfl (by decide)]
      exact congrArg some (PresenterKind.ofName_eq_ok_iff.mp hkind)

/-- A toolchain is read from an environment exactly if it has the values of all settings there. -/
theorem ofEnvironment_eq_ok_iff :
    ofEnvironment environment = .ok toolchain ↔
      ∀ setting, toolchain.setting? setting = environment.setting? setting := by
  constructor
  · intro hread
    cases hkind : PresenterKind.ofName (environment.wordOr "LINEASM_PRESENTER" "plain") with
    | error failure =>
        rw [ofEnvironment, hkind] at hread
        cases hread
    | ok kind =>
        obtain ⟨other, hother, hsettings⟩ := exists_of_presenter hkind
        rw [hother] at hread
        obtain rfl := Except.ok.inj hread
        exact hsettings
  · intro hsettings
    have hname : toolchain.presenter.name = environment.wordOr "LINEASM_PRESENTER" "plain" := by
      have hpresenter := hsettings .presenter
      rw [environment.setting?_of_word .presenter rfl (by decide)] at hpresenter
      exact Option.some.inj hpresenter
    obtain ⟨other, hother, hread⟩ := exists_of_presenter (PresenterKind.ofName_eq_ok_iff.mpr hname)
    rw [hother, eq_of_setting? fun setting => (hread setting).trans (hsettings setting).symm]

theorem ofEnvironment_eq_error_iff :
    ofEnvironment environment = .error failure ↔
      ∃ value, environment "LINEASM_PRESENTER" = some value ∧ value.strip ≠ [] ∧
        (∀ kind : PresenterKind, kind.name ≠ value.strip) ∧
        failure = .unknownPresenter value.strip := by
  have hplain : ¬ ∀ kind : PresenterKind, kind.name ≠ ("plain" : String).toList :=
    fun hunknown => hunknown .plain rfl
  have herror : ofEnvironment environment = .error failure ↔
      PresenterKind.ofName (environment.wordOr "LINEASM_PRESENTER" "plain") = .error failure := by
    rw [ofEnvironment]
    cases PresenterKind.ofName (environment.wordOr "LINEASM_PRESENTER" "plain") with
    | error other => simp [bind, Except.bind]
    | ok kind => simp [bind, Except.bind, pure, Except.pure]
  rw [herror, PresenterKind.ofName_eq_error_iff]
  constructor
  · rintro ⟨hunknown, rfl⟩
    cases hset : environment "LINEASM_PRESENTER" with
    | none =>
        simp only [Environment.wordOr, hset] at hunknown
        exact absurd hunknown hplain
    | some value =>
        by_cases hvalue : value.strip = []
        · rw [Environment.wordOr_of_strip_eq_nil hset hvalue] at hunknown
          exact absurd hunknown hplain
        · rw [Environment.wordOr_of_strip_ne_nil hset hvalue] at hunknown ⊢
          exact ⟨value, rfl, hvalue, hunknown, rfl⟩
  · rintro ⟨value, hset, hvalue, hunknown, rfl⟩
    rw [Environment.wordOr_of_strip_ne_nil hset hvalue]
    exact ⟨hunknown, rfl⟩

theorem strip_of_ofEnvironment (hread : ofEnvironment environment = .ok toolchain) {setting : Setting}
    {text : Text} (htext : toolchain.setting? setting = some text) :
    text.strip = text ∧ (setting.holdsFlags = false → text.strip ≠ []) := by
  rw [ofEnvironment_eq_ok_iff.mp hread] at htext
  have hstrip : text.strip = text := Environment.strip_of_setting? htext
  refine ⟨hstrip, fun hword => ?_⟩
  rw [hstrip]
  exact Environment.ne_nil_of_setting? htext hword

/-! ### The settings of a language -/

theorem setting?_compilerSetting (toolchain : Toolchain) (language : Language) :
    toolchain.setting? language.compilerSetting = some (toolchain.compiler language) := by
  cases language <;> rfl

theorem setting?_flagsSetting (toolchain : Toolchain) (language : Language) :
    toolchain.setting? language.flagsSetting = some (toolchain.flags language) := by
  cases language <;> rfl

theorem strip_compiler_ne_nil (hread : ofEnvironment environment = .ok toolchain)
    (language : Language) : (toolchain.compiler language).strip ≠ [] := by
  refine (strip_of_ofEnvironment hread (toolchain.setting?_compilerSetting language)).2 ?_
  cases language <;> rfl

theorem flags_eq_nil_of_strip (hread : ofEnvironment environment = .ok toolchain)
    {language : Language} (hblank : (toolchain.flags language).strip = []) :
    toolchain.flags language = [] := by
  rw [← hblank, (strip_of_ofEnvironment hread (toolchain.setting?_flagsSetting language)).1]

theorem compiler_of_set (hread : ofEnvironment environment = .ok toolchain) {language : Language}
    {value : Text} (hset : environment language.compilerSetting.variableName = some value)
    (hvalue : value.strip ≠ []) : toolchain.compiler language = value.strip := by
  have hword : language.compilerSetting.holdsFlags = false := by cases language <;> rfl
  have hfallback : language.compilerSetting.fallback ≠ [] := by cases language <;> decide
  have hsetting := ofEnvironment_eq_ok_iff.mp hread language.compilerSetting
  rw [setting?_compilerSetting, environment.setting?_of_word _ hword hfallback,
    Environment.wordOr_of_strip_ne_nil hset hvalue] at hsetting
  exact Option.some.inj hsetting

theorem flags_of_set (hread : ofEnvironment environment = .ok toolchain) {language : Language}
    {value : Text} (hset : environment language.flagsSetting.variableName = some value) :
    toolchain.flags language = value.strip := by
  have hflags : language.flagsSetting.holdsFlags = true := by cases language <;> rfl
  have hsetting := ofEnvironment_eq_ok_iff.mp hread language.flagsSetting
  rw [setting?_flagsSetting, Environment.setting?, if_pos hflags,
    Environment.flagsOr_of_set hset] at hsetting
  exact Option.some.inj hsetting

/-! ### Reading an environment -/

/-- Only a presenter of another name is refused. What is read otherwise is trimmed and, flags apart, not
empty; each setting depends on its own variable; and settings that are written to their variables are
read again as they are. -/
theorem settings_are_normal_and_independent :
    (∀ environment failure, ofEnvironment environment = .error failure ↔
      ∃ value, environment "LINEASM_PRESENTER" = some value ∧ value.strip ≠ [] ∧
        (∀ kind : PresenterKind, kind.name ≠ value.strip) ∧
        failure = .unknownPresenter value.strip) ∧
    (∀ environment toolchain, ofEnvironment environment = .ok toolchain →
      (∀ setting text, toolchain.setting? setting = some text →
        text.strip = text ∧ (setting.holdsFlags = false → text.strip ≠ [])) ∧
      (∀ other otherToolchain, ofEnvironment other = .ok otherToolchain →
        ∀ setting, environment setting.variableName = other setting.variableName →
          toolchain.setting? setting = otherToolchain.setting? setting) ∧
      (∀ written : Environment,
        (∀ setting, written setting.variableName = some ((toolchain.setting? setting).getD [])) →
          ofEnvironment written = .ok toolchain)) := by
  refine ⟨fun environment failure => ofEnvironment_eq_error_iff, ?_⟩
  intro environment toolchain hread
  have hsettings := ofEnvironment_eq_ok_iff.mp hread
  refine ⟨?_, ?_, ?_⟩
  · intro setting text htext
    exact strip_of_ofEnvironment hread htext
  · intro other otherToolchain hother setting hsame
    rw [hsettings, ofEnvironment_eq_ok_iff.mp hother]
    exact Environment.setting?_congr hsame
  · intro written hwritten
    refine ofEnvironment_eq_ok_iff.mpr fun setting => ?_
    rw [hsettings]
    refine (Environment.setting?_of_written ?_).symm
    rw [hwritten, hsettings]

theorem settings_are_normal_and_independent_of_padded_values :
    ofEnvironment (Environment.ofList [("LINEASM_PRESENTER", " fancy\n")]) =
      .error (.unknownPresenter "fancy") ∧
    ofEnvironment (Environment.ofList
        [("CC", " clang\u00a0"), ("CFLAGS", "\t"), ("LINEASM_OBJDUMP", "\x0b"),
          ("LINEASM_PRESENTER", "rich\n")]) =
      .ok { cCompiler := "clang", cFlags := "", presenter := .rich } ∧
    ofEnvironment (Environment.ofList
        [("CC", "clang"), ("CXX", "c++"), ("FORTRAN", "gfortran"), ("CFLAGS", ""),
          ("CXXFLAGS", "-march=native"), ("FFLAGS", "-march=native"), ("LINEASM_OBJDUMP", ""),
          ("LINEASM_PRESENTER", "rich")]) =
      .ok { cCompiler := "clang", cFlags := "", presenter := .rich } ∧
    Toolchain.setting? { cCompiler := "clang", cFlags := "", presenter := .rich } .cxxFlags =
      Toolchain.setting? {} .cxxFlags := by
  have hread : ofEnvironment (Environment.ofList
      [("CC", " clang\u00a0"), ("CFLAGS", "\t"), ("LINEASM_OBJDUMP", "\x0b"),
        ("LINEASM_PRESENTER", "rich\n")]) =
      .ok { cCompiler := "clang", cFlags := "", presenter := .rich } := rfl
  obtain ⟨hrefused, haccepted⟩ := settings_are_normal_and_independent
  obtain ⟨_, hindependent, hwritten⟩ := haccepted _ _ hread
  refine ⟨(hrefused _ _).mpr ⟨" fancy\n", rfl, by decide, ?_, rfl⟩, hread, hwritten _ ?_, ?_⟩
  · intro kind
    cases kind <;> decide
  · intro setting
    cases setting <;> rfl
  · have hempty : ofEnvironment (Environment.ofList []) = .ok {} := rfl
    exact hindependent _ _ hempty .cxxFlags rfl

end Toolchain

end AsmLens
