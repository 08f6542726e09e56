import JobShell.CommandLine.Invoke
import JobShell.Proofs.Settings.Storage
import JobShell.Proofs.Settings.Table

/-!
# Which setting counts

A flag counts before the settings file, and the settings file before the defaults, for each
setting on its own. There is at most one file, the named one or else the one that is found,
and it counts as a whole or not at all. Texts are read as tables, and the file is found, by
any source whose tables have no name twice and whose search ends with one path.
-/

namespace JobShell.Settings

open CommandLine (Flags)
open Toml (Entries)
open Unix (PathName Program)

set_option autoImplicit false

def names : List String :=
  ["max_jobs", "history_size", "log_file", "prompt"]

/-- A text writes a table. Numbers are only read when they are looked at, and a text is
well-formed only if all of them can be read. -/
def Source.Writes (source : Source) (text : String) (table : Entries) : Prop :=
  source.read text = some table ∧ entriesFit table = true

def Source.IsDistinct (source : Source) : Prop :=
  ∀ text table, source.read text = some table → table.Distinct

/-- The path of the file that is consulted: the named one, or else the one that is found. -/
def consulted (flags : Flags) (found : Option PathName) : Option PathName :=
  (flags.config.map PathName.mk).or found

def Storage.Holds (storage : Storage) (source : Source) (path : Option PathName)
    (table : Entries) : Prop :=
  ∃ name text, path = some name ∧ storage.bytesAt name = some text.toUTF8.data.toList ∧
    source.Writes text table ∧ IsValid table

/-- For each setting the value of the flag, or else the one in the file, or else the
default. There is no flag for the prompt. -/
def chosen (flags : Flags) (file : Option Entries) : Settings :=
  { maxJobs := (flags.maxJobs.or (file.bind (countAt · "max_jobs"))).getD Settings.default.maxJobs
    historySize :=
      (flags.historySize.or (file.bind (countAt · "history_size"))).getD
        Settings.default.historySize
    logPath :=
      ((flags.logFile.map PathName.mk).or
        ((file.bind (textAt · "log_file")).map PathName.ofText)).or Settings.default.logPath
    prompt := (file.bind (textAt · "prompt")).or Settings.default.prompt }

section

variable {source : Source} {text otherText : String} {table other : Entries}
  {settings : Settings}

theorem parse_eq_some_iff (distinct : source.IsDistinct) :
    (source.parse text).toOption = some settings ↔
      ∃ table, source.Writes text table ∧ IsValid table ∧
        settings = Settings.default.under table := by
  unfold Source.parse Source.Writes
  cases parsed : source.read text with
  | none => simp [Except.toOption]
  | some table =>
      have noneTwice := distinct text table parsed
      simp only [of_entries_eq_ok_iff noneTwice, Option.some.injEq, and_assoc, exists_eq_left']

theorem Source.Writes.unique (writes : source.Writes text table)
    (otherWrites : source.Writes text other) : table = other :=
  Option.some.inj (writes.1.symm.trans otherWrites.1)

theorem Source.Writes.parse_iff (distinct : source.IsDistinct)
    (writes : source.Writes text table) :
    (source.parse text).toOption = some settings ↔
      IsValid table ∧ settings = Settings.default.under table := by
  rw [parse_eq_some_iff distinct]
  constructor
  · rintro ⟨other, otherWrites, valid, isUnder⟩
    obtain rfl := writes.unique otherWrites
    exact ⟨valid, isUnder⟩
  · rintro ⟨valid, isUnder⟩
    exact ⟨table, writes, valid, isUnder⟩

theorem IsValid.of_agree (valid : IsValid table)
    (agree : ∀ name ∈ names, valueAt other name = valueAt table name) : IsValid other := by
  intro name value holds
  by_cases isName : name ∈ names
  · rw [agree name isName] at holds
    exact valid name value holds
  · simp only [names, List.mem_cons, List.not_mem_nil, or_false, not_or] at isName
    rw [isExpected, if_neg (by tauto), if_neg (by tauto)]

theorem under_of_agree (settings : Settings)
    (agree : ∀ name ∈ names, valueAt other name = valueAt table name) :
    settings.under other = settings.under table := by
  simp only [names, List.forall_mem_cons] at agree
  simp only [under, countAt, textAt, agree]

theorem parse_of_agree (distinct : source.IsDistinct) (writes : source.Writes text table)
    (otherWrites : source.Writes otherText other)
    (agree : ∀ name ∈ names, valueAt other name = valueAt table name) :
    (source.parse otherText).toOption = (source.parse text).toOption := by
  have sameValid : IsValid other ↔ IsValid table :=
    ⟨fun valid => valid.of_agree fun name isName => (agree name isName).symm,
      fun valid => valid.of_agree agree⟩
  ext settings
  rw [otherWrites.parse_iff distinct, writes.parse_iff distinct, sameValid,
    under_of_agree _ agree]

end

theorem from_utf8_eq_some_iff {bytes : ByteArray} {text : String} :
    String.fromUTF8? bytes = some text ↔ bytes = text.toUTF8 := by
  unfold String.fromUTF8?
  constructor
  · intro decoded
    split at decoded
    next isValid =>
      rw [← Option.some.inj decoded]
      rfl
    next => cases decoded
  · rintro rfl
    rw [String.toUTF8_eq_toByteArray, dif_pos text.isValidUTF8]
    rfl

theorem of_bytes_eq_some_iff {source : Source} {path : PathName} {bytes : List UInt8}
    {settings : Settings} :
    (source.ofBytes path ⟨bytes.toArray⟩).toOption = some settings ↔
      ∃ text, bytes = text.toUTF8.data.toList ∧
        (source.parse text).toOption = some settings := by
  have same (text : String) :
      String.fromUTF8? ⟨bytes.toArray⟩ = some text ↔ bytes = text.toUTF8.data.toList := by
    rw [from_utf8_eq_some_iff, ByteArray.ext_iff, ← Array.toList_inj, List.toList_toArray]
  unfold Source.ofBytes
  cases decoded : String.fromUTF8? ⟨bytes.toArray⟩ with
  | none =>
      refine iff_of_false nofun ?_
      rintro ⟨text, isText, _⟩
      rw [(same text).mpr isText] at decoded
      cases decoded
  | some text =>
      have mapped : ((source.parse text).mapError (FileFault.invalid text)).toOption =
          (source.parse text).toOption := by
        cases source.parse text <;> rfl
      rw [mapped]
      constructor
      · exact fun isParsed => ⟨text, (same text).mp decoded, isParsed⟩
      · rintro ⟨other, isOther, isParsed⟩
        obtain rfl : text = other := Option.some.inj (decoded.symm.trans ((same other).mpr isOther))
        exact isParsed

section

variable {source : Source} {storage : Storage} {opened : Opened} {named found : Option PathName}

def Storage.settingsAt (storage : Storage) (source : Source) (path : PathName) :
    Option Settings :=
  (storage.bytesAt path).bind fun bytes => (source.ofBytes path ⟨bytes.toArray⟩).toOption

theorem settles_of_file (path : PathName) :
    storage.Settles
      (match storage.bytesAt path with
        | none => .error (.unreadable path.shown)
        | some bytes => source.ofBytes path ⟨bytes.toArray⟩)
      opened (source.ofFile path) := by
  refine (Storage.settles_bytes_of path).bind fun opened => ?_
  cases storage.bytesAt path with
  | none => exact Storage.settles_pure _
  | some bytes => exact Storage.settles_pure _

theorem settles_consult (finds : storage.Settles found opened source.find) :
    storage.Settles (named.or found) opened (source.consult named) := by
  cases named with
  | some path => exact Storage.settles_pure _
  | none => exact finds

theorem settles_load (finds : storage.Settles found opened source.find) :
    storage.Settles
      (((named.or found).bind (storage.settingsAt source)).getD Settings.default)
      opened (source.load named) := by
  refine (settles_consult finds).bind fun opened => ?_
  cases named.or found with
  | none => exact Storage.settles_pure _
  | some path =>
      refine (settles_of_file path).bind fun opened => ?_
      rw [Option.bind_some, Storage.settingsAt]
      cases storage.bytesAt path with
      | none => exact Storage.settles_pure _
      | some bytes => exact Storage.settles_pure _

theorem settings_eq_some_iff {path : Option PathName} {settings : Settings}
    (distinct : source.IsDistinct) :
    path.bind (storage.settingsAt source) = some settings ↔
      ∃ table, storage.Holds source path table ∧
        settings = Settings.default.under table := by
  simp only [Storage.Holds, Storage.settingsAt, Option.bind_eq_some_iff, of_bytes_eq_some_iff,
    parse_eq_some_iff distinct]
  constructor
  · rintro ⟨name, isConsulted, bytes, isRead, text, rfl, table, writes, valid, isUnder⟩
    exact ⟨table, ⟨name, text, isConsulted, isRead, writes, valid⟩, isUnder⟩
  · rintro ⟨table, ⟨name, text, isConsulted, isRead, writes, valid⟩, isUnder⟩
    exact ⟨name, isConsulted, _, isRead, text, rfl, table, writes, valid, isUnder⟩

theorem Storage.Holds.unique {path : Option PathName} {table other : Entries}
    (holds : storage.Holds source path table) (otherHolds : storage.Holds source path other) :
    table = other := by
  obtain ⟨name, text, isConsulted, isRead, writes, _⟩ := holds
  obtain ⟨otherName, otherText, otherConsulted, otherRead, otherWrites, _⟩ := otherHolds
  obtain rfl : name = otherName := Option.some.inj (isConsulted.symm.trans otherConsulted)
  have sameBytes := Option.some.inj (isRead.symm.trans otherRead)
  have sameText : text = otherText :=
    String.toByteArray_inj.mp (ByteArray.ext (Array.toList_inj.mp sameBytes))
  subst sameText
  exact writes.unique otherWrites

end

theorem over_under (flags : Flags) (table : Entries) :
    flags.over (Settings.default.under table) = chosen flags (some table) := by
  simp only [Flags.over, under, chosen, Option.bind_some, Option.getD_or, Option.or_assoc]

theorem over_default (flags : Flags) : flags.over Settings.default = chosen flags none := by
  simp [Flags.over, chosen, Settings.default]

theorem exists_settling_file (source : Source) (flags : Flags) {storage : Storage}
    {opened : Opened} {found : Option PathName} (distinct : source.IsDistinct)
    (finds : storage.Settles found opened source.find) :
    ∃ file : Option Entries,
      (∀ table, file = some table ↔ storage.Holds source (consulted flags found) table) ∧
      storage.Settles (chosen flags file) opened (flags.settingsFrom source) := by
  have settles : storage.Settles
      (flags.over (((consulted flags found).bind (storage.settingsAt source)).getD
        Settings.default))
      opened (flags.settingsFrom source) :=
    (settles_load finds).bind fun _ => Storage.settles_pure _
  by_cases isHeld : ∃ table, storage.Holds source (consulted flags found) table
  · obtain ⟨table, holds⟩ := isHeld
    have loaded := (settings_eq_some_iff distinct).mpr ⟨table, holds, rfl⟩
    rw [loaded, Option.getD_some, over_under] at settles
    refine ⟨some table, fun other => ⟨?_, ?_⟩, settles⟩
    · rintro ⟨⟩
      exact holds
    · exact fun otherHolds => congrArg some (holds.unique otherHolds)
  · have nothing : (consulted flags found).bind (storage.settingsAt source) = none := by
      refine Option.eq_none_iff_forall_ne_some.mpr fun settings loaded => ?_
      obtain ⟨table, holds, _⟩ := (settings_eq_some_iff distinct).mp loaded
      exact isHeld ⟨table, holds⟩
    rw [nothing, Option.getD_none, over_default] at settles
    exact ⟨none, fun other => ⟨nofun, fun holds => absurd ⟨other, holds⟩ isHeld⟩, settles⟩

/-- For every storage, all flags and every reply that the storage may give: the consulted
file is valid exactly when it can be read as a text that writes a table with all settings
as expected, and the settings are chosen from the flags, the table of a valid file and
the defaults. The file counts only by the values under the names of settings. -/
theorem settings_by_precedence (source : Source) (flags : Flags) (storage : Storage)
    (found : Option PathName) (distinct : source.IsDistinct)
    (finds : storage.Settles found (fun _ => none) source.find) :
    (∃ file : Option Entries,
      (∀ table, file = some table ↔ storage.Holds source (consulted flags found) table) ∧
      (∃ trace, storage.Shows trace ∧
        (flags.settingsFrom source).Returns trace (chosen flags file)) ∧
      (∀ trace settings, storage.Shows trace →
        (flags.settingsFrom source).Returns trace settings → settings = chosen flags file)) ∧
    (∀ text otherText table other, source.Writes text table → source.Writes otherText other →
      (∀ name ∈ names, valueAt other name = valueAt table name) →
      (source.parse otherText).toOption = (source.parse text).toOption) := by
  refine ⟨?_, fun _ _ _ _ writes otherWrites agree =>
    parse_of_agree distinct writes otherWrites agree⟩
  obtain ⟨file, isFile, settles⟩ := exists_settling_file source flags distinct finds
  obtain ⟨trace, shown, returns⟩ := settles.exists_trace
  exact ⟨file, isFile, ⟨trace, shown, returns⟩,
    fun trace settings shown returns => settles.eq_of_returns shown returns⟩

def partialText : String :=
  "color = 1\nmax_jobs = 4\nhistory_size = 5\n"

def personalStorage : Storage where
  environment := [("HOME", "/root")]
  leads := fun path => path == "/root/.config/psh/config.toml"
  contents := fun path =>
    if path = .ofText "/root/.config/psh/config.toml" then
      some ⟨partialText.toUTF8.data.toList, none⟩
    else none
  bounded := by
    intro path content holds
    split at holds
    · rw [← Option.some.inj holds]
      decide
    · cases holds

def fewFlags : Flags :=
  { Flags.none with
    historySize := some 3
    logFile := some [0x2f, 0xff] }

/-- An unknown key is passed over, a flag counts before the file that is found, the file counts
before the defaults, and the path of a log need not be UTF-8. -/
theorem settings_by_precedence_personal_file :
    (Source.standard none).IsDistinct ∧
      personalStorage.Settles (some (.ofText "/root/.config/psh/config.toml")) (fun _ => none)
        (Source.standard none).find ∧
      ∃ trace, personalStorage.Shows trace ∧
        (fewFlags.settingsFrom (.standard none)).Returns trace
          ⟨4, 3, some ⟨[0x2f, 0xff]⟩, none⟩ := by
  have distinct : (Source.standard none).IsDistinct := fun _ _ => Toml.parse_distinct
  have finds : personalStorage.Settles (some (.ofText "/root/.config/psh/config.toml"))
      (fun _ => none) (Source.standard none).find := by
    have isFirst : ((places personalStorage.environment none).find? personalStorage.leads).map
        PathName.ofText = some (.ofText "/root/.config/psh/config.toml") := by decide +kernel
    exact isFirst ▸ Storage.settles_standard_find none
  have view : ((Source.standard none).read partialText).map (fun table =>
      (entriesFit table, table.all fun entry => isExpected entry.1 (scalar? entry.2),
        chosen fewFlags (some table))) =
      some (true, true, ⟨4, 3, some ⟨[0x2f, 0xff]⟩, none⟩) := by
    decide +kernel
  obtain ⟨table, parsed, isViewed⟩ := Option.map_eq_some_iff.mp view
  obtain ⟨fit, isViewed⟩ := Prod.mk.inj isViewed
  obtain ⟨expected, isChosen⟩ := Prod.mk.inj isViewed
  have valid : IsValid table :=
    (is_valid_iff (distinct _ _ parsed)).mpr (List.all_eq_true.mp expected)
  have isRead : personalStorage.bytesAt (.ofText "/root/.config/psh/config.toml") =
      some partialText.toUTF8.data.toList := by
    decide +kernel
  obtain ⟨⟨file, isFile, ⟨trace, shown, returns⟩, _⟩, _⟩ :=
    settings_by_precedence (.standard none) fewFlags personalStorage _ distinct finds
  have isHeld : file = some table :=
    (isFile table).mpr ⟨_, partialText, rfl, isRead, ⟨parsed, fit⟩, valid⟩
  rw [isHeld, isChosen] at returns
  exact ⟨distinct, finds, trace, shown, returns⟩

end JobShell.Settings
