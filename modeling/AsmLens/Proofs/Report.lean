import AsmLens.Proofs.Ending
import AsmLens.Proofs.JsonText
import Mathlib.Data.List.Forall2

/-!
# The report of an inspection

The report is ASCII, and a reader of JSON finds in it all that the inspection has brought to light. It
is the same text on the standard output, where a line feed closes it, and in a file.
-/

namespace AsmLens

namespace Json

/-- The keys of every object stand in ascending order, and none stands twice. -/
inductive KeysAscend : Json → Prop
  | null : KeysAscend .null
  | bool (value : Bool) : KeysAscend (.bool value)
  | number (value : Int) : KeysAscend (.number value)
  | text (value : Text) : KeysAscend (.text value)
  | array {items : List Json} (hitems : ∀ item ∈ items, KeysAscend item) : KeysAscend (.array items)
  | object {fields : List (Text × Json)} (hkeys : (fields.map Prod.fst).Pairwise (· < ·))
      (hfields : ∀ field ∈ fields, KeysAscend field.2) : KeysAscend (.object fields)

/-- Each byte of ASCII is the number of its character. -/
theorem encode_of_isAscii {text : Text} (hascii : IsAscii text) :
    text.encode = text.map fun c => c.toNat.toUInt8 := by
  induction text with
  | nil => rfl
  | cons c rest ih =>
      obtain ⟨hc, hrest⟩ := isAscii_cons.mp hascii
      have hchar : Text.encodeChar c = [c.toNat.toUInt8] := by
        rw [Text.encodeChar, if_pos hc]
      rw [Text.encode, List.flatMap_cons, hchar, ← Text.encode, ih hrest]
      rfl

theorem begin_of_isAscii {c : Char} (hc : c.toNat < 0x80) :
    Text.begin c.toNat.toUInt8 = ([c], none) := by
  have hvalue : c.toNat.toUInt8.toNat = c.toNat := by
    rw [Nat.toUInt8_eq, UInt8.toNat_ofNat']
    omega
  have hlow : c.toNat.toUInt8 < 0x80 := by
    rw [UInt8.lt_iff_toNat_lt, hvalue]
    exact hc
  rw [Text.begin]
  simp only [if_pos hlow, hvalue, Char.ofNat_toNat]

theorem decode_encode_of_isAscii {text : Text} (hascii : IsAscii text) :
    Text.decode text.encode = text := by
  rw [encode_of_isAscii hascii, Text.decode]
  induction text with
  | nil => rfl
  | cons c rest ih =>
      obtain ⟨hc, hrest⟩ := isAscii_cons.mp hascii
      rw [List.map_cons, Text.decodeFrom, begin_of_isAscii hc]
      exact congrArg (c :: ·) (ih hrest)

end Json

theorem ListingLine.keysAscend_toJson (line : ListingLine) : line.toJson.KeysAscend := by
  have hkeys : ["is_instruction".toList, "text".toList].Pairwise (· < ·) := by decide
  refine .object hkeys fun field hfield => ?_
  simp only [List.mem_cons, List.not_mem_nil, or_false] at hfield
  rcases hfield with rfl | rfl
  · exact .bool _
  · exact .text _

theorem ListingMatch.keysAscend_toJson (found : ListingMatch) : found.toJson.KeysAscend := by
  have hkeys : ["line_index".toList, "matched_by".toList, "needle".toList, "offset".toList].Pairwise
      (· < ·) := by decide
  refine .object hkeys fun field hfield => ?_
  simp only [List.mem_cons, List.not_mem_nil, or_false] at hfield
  rcases hfield with rfl | rfl | rfl | rfl
  · exact .number _
  · exact .text _
  · exact .text _
  · exact .number _

theorem SourceLocation.keysAscend_toJson (location : SourceLocation) : location.toJson.KeysAscend := by
  have hkeys : ["file_path".toList, "line".toList, "text".toList].Pairwise (· < ·) := by decide
  refine .object hkeys fun field hfield => ?_
  simp only [List.mem_cons, List.not_mem_nil, or_false] at hfield
  rcases hfield with rfl | rfl | rfl
  · exact .text _
  · exact .number _
  · exact .text _

namespace Inspection

variable (inspection : Inspection)

theorem keysAscend_toJson : inspection.toJson.KeysAscend := by
  have hkeys : ["compile_command".toList, "disassemble_command".toList, "language".toList,
      "lines".toList, "location".toList, "match".toList, "object_path".toList].Pairwise (· < ·) := by
    decide
  refine .object hkeys fun field hfield => ?_
  simp only [List.mem_cons, List.not_mem_nil, or_false] at hfield
  rcases hfield with rfl | rfl | rfl | rfl | rfl | rfl | rfl
  · exact .text _
  · exact .text _
  · exact .text _
  · refine .array fun item hitem => ?_
    obtain ⟨line, _, rfl⟩ := List.mem_map.mp hitem
    exact line.keysAscend_toJson
  · exact inspection.location.keysAscend_toJson
  · cases inspection.position with
    | none => exact .null
    | some found => exact found.keysAscend_toJson
  · exact .text _

/-- A value of JSON tells of an inspection where its line is, what was run, whether and where the line
was found, and what the lines of the listing are. -/
structure TellsOf (payload : Json) : Prop where
  location : ∃ value, payload.field? "location" = some value ∧
    value.field? "file_path" = some (.text inspection.location.path.toText) ∧
    value.field? "line" = some (.number inspection.location.line) ∧
    value.field? "text" = some (.text inspection.location.text)
  language : payload.field? "language" = some (.text inspection.command.language.tag)
  compileCommand : payload.field? "compile_command" = some (.text inspection.command.line)
  disassembleCommand :
    payload.field? "disassemble_command" = some (.text inspection.disassembly.commandLine)
  objectPath : payload.field? "object_path" = some (.text inspection.command.output.toText)
  notFound : payload.field? "match" = some .null ↔ inspection.position = none
  found : ∀ found, inspection.position = some found →
    ∃ value, payload.field? "match" = some value ∧
      value.field? "offset" = some (.number found.offset) ∧
      value.field? "line_index" = some (.number found.lineIndex) ∧
      value.field? "matched_by" = some (.text found.matchedBy.tag) ∧
      value.field? "needle" = some (.text found.needle)
  lines : ∃ items, payload.field? "lines" = some (.array items) ∧
    List.Forall₂ (fun item line =>
      item.field? "text" = some (.text line.text) ∧
        item.field? "is_instruction" = some (.bool line.isInstruction))
      items inspection.listing.listingLines

theorem tellsOf_toJson : inspection.TellsOf inspection.toJson where
  location := ⟨_, rfl, rfl, rfl, rfl⟩
  language := rfl
  compileCommand := rfl
  disassembleCommand := rfl
  objectPath := rfl
  notFound := by
    change some ((inspection.position.map ListingMatch.toJson).getD .null) = some .null ↔ _
    cases inspection.position <;> simp [ListingMatch.toJson]
  found := by
    intro found hfound
    refine ⟨found.toJson, ?_, rfl, rfl, rfl, rfl⟩
    change some ((inspection.position.map ListingMatch.toJson).getD .null) = _
    rw [hfound]
    rfl
  lines := by
    refine ⟨_, rfl, ?_⟩
    rw [List.forall₂_map_left_iff, List.forall₂_same]
    exact fun line _ => ⟨rfl, rfl⟩

theorem isAscii_report : Json.IsAscii inspection.report :=
  Json.isAscii_render inspection.toJson 0

theorem read?_report : Json.read? inspection.report = some inspection.toJson :=
  Json.read?_render inspection.toJson

end Inspection

namespace CommandLine

variable {settings : Settings} {toolchain : Toolchain} {context : Int} {inspection : Inspection}
  {session : Session}

theorem present_of_report (hformat : settings.format = .json) (hfile : outputFile settings = none) :
    present settings toolchain context inspection session =
      (.ok
        { exitCode := .success
          output := inspection.report ++ "\n"
          errors := remark inspection },
        session) :=
  Presents.present_eq (.report hformat hfile)

theorem present_to_file {path : Text} {filed : Ending} {after : Session} (hformat : settings.format = .json)
    (hfile : outputFile settings = some path)
    (hpresent : present settings toolchain context inspection session = (.ok filed, after))
    (hsuccess : filed.exitCode = .success) :
    filed.output = [] ∧ after.tree.readBytes (Path.ofText path).toText = .ok inspection.report.encode := by
  obtain ⟨result, changed, hpresents⟩ := exists_presents settings toolchain context inspection session
  obtain ⟨rfl, rfl⟩ := Prod.mk.inj (hpresents.present_eq.symm.trans hpresent)
  cases hpresents with
  | listing hlisting =>
      rw [hformat] at hlisting
      contradiction
  | report _ hnone =>
      rw [hfile] at hnone
      contradiction
  | file _ hother hwrite =>
      obtain rfl := Option.some.inj (hfile.symm.trans hother)
      exact ⟨rfl, Inspection.readBytes_of_writeReport hwrite⟩
  | refused => cases hsuccess

/-- The report is ASCII and is read back as all that the inspection has brought to light. What is
written to a file is what is written to the standard output without the line feed at its end. -/
theorem report_is_faithful (settings : Settings) (toolchain : Toolchain) (context : Int)
    (inspection : Inspection) (session : Session) :
    (∀ c ∈ inspection.report, c.toNat < 0x80) ∧
    (∃ payload, Json.read? inspection.report = some payload ∧ inspection.report = payload.render 0 ∧
      payload.KeysAscend ∧ inspection.TellsOf payload) ∧
    ∃ shown, present { settings with format := .json, output := none } toolchain context inspection session =
        (.ok shown, session) ∧
      shown.output = inspection.report ++ "\n" ∧
      ∀ path filed after, path ≠ [] →
        present { settings with format := .json, output := some path } toolchain context inspection session =
          (.ok filed, after) →
        filed.exitCode = .success →
        ∃ bytes, after.tree.readBytes (Path.ofText path).toText = .ok bytes ∧
          bytes = Text.encode shown.output.dropLast ∧ Text.decode bytes = shown.output.dropLast := by
  refine ⟨inspection.isAscii_report, ?_, _, present_of_report rfl rfl, rfl, ?_⟩
  · exact ⟨inspection.toJson, inspection.read?_report, rfl, inspection.keysAscend_toJson,
      inspection.tellsOf_toJson⟩
  · intro path filed after hpath hpresent hsuccess
    have hfile : outputFile { settings with format := .json, output := some path } = some path := by
      simp [outputFile, hpath]
    obtain ⟨_, hread⟩ := present_to_file rfl hfile hpresent hsuccess
    have hclosed : (inspection.report ++ "\n".toList).dropLast = inspection.report := List.dropLast_concat
    simp only [hclosed]
    exact ⟨_, hread, rfl, Json.decode_encode_of_isAscii inspection.isAscii_report⟩

/-- An inspection of a line with a quote, a backslash and a character past the first plane. -/
def oddInspection : Inspection where
  location := ⟨Path.ofText "f.c", 1, "\"\\😀"⟩
  command := CompileCommand.make {} .c "/w/f.c" "x.o"
  compilation := ⟨0, [], true⟩
  disassembly := ⟨"objdump -d x.o", 0, "f.c:1\n   0:\tret\n", []⟩
  position := some ⟨0, 0, .marker, "f.c:1"⟩

theorem report_is_faithful_of_odd_line :
    ∃ shown filed after bytes,
      present { format := .json } {} 0 oddInspection (.start sourceTree .warning) =
        (.ok shown, .start sourceTree .warning) ∧
      present { format := .json, output := some "r/o.json" } {} 0 oddInspection
        (.start sourceTree .warning) = (.ok filed, after) ∧
      after.tree.readBytes "r/o.json" = .ok bytes ∧
      shown.output = Text.decode bytes ++ "\n" ∧
      Json.read? (Text.decode bytes) = some oddInspection.toJson := by
  obtain ⟨_, _, shown, hshown, houtput, hfile⟩ :=
    report_is_faithful {} {} 0 oddInspection (.start sourceTree .warning)
  obtain ⟨filed, after, hfiled, hsuccess⟩ : ∃ filed after,
      present { format := .json, output := some "r/o.json" } {} 0 oddInspection
        (.start sourceTree .warning) = (.ok filed, after) ∧ filed.exitCode = .success := ⟨_, _, rfl, rfl⟩
  obtain ⟨bytes, hbytes, _, hdecode⟩ := hfile "r/o.json" filed after (by decide) hfiled hsuccess
  have hreport : Text.decode bytes = oddInspection.report := by
    rw [hdecode, houtput]
    exact List.dropLast_concat
  refine ⟨shown, filed, after, bytes, hshown, hfiled, hbytes, ?_, ?_⟩
  · rw [hreport, houtput]
  · rw [hreport]
    exact oddInspection.read?_report

end CommandLine

end AsmLens
