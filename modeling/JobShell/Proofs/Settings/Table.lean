import JobShell.Proofs.Toml.Names
import JobShell.Settings.Table

/-!
# The settings in a table

A table gives settings exactly when every number in it is in range and each of the four
settings that it holds is what is expected there. The settings are then those it holds
over the defaults. A table is thus taken as a whole or not at all, and nothing but the
values of the four settings and the health of the rest has any influence: neither the
order of the entries nor what stands under other names.
-/

namespace JobShell.Settings

open Toml (Entries Item Scalar)

set_option autoImplicit false

def scalar? : Item → Option Scalar
  | .scalar _ value => some value
  | _ => none

/-- What a table holds under a name, apart from where it is written. Of what has parts it
is only told that it is there. -/
def valueAt (table : Entries) (name : String) : Option (Option Scalar) :=
  (table.lookup name).map scalar?

def number? : Scalar → Option Nat
  | .integer value => if 0 ≤ value ∧ value < wordValues 64 then some value.toNat else none
  | _ => none

def text? : Scalar → Option String
  | .string text => some text
  | _ => none

def countAt (table : Entries) (name : String) : Option Nat :=
  (valueAt table name).join.bind number?

def textAt (table : Entries) (name : String) : Option String :=
  (valueAt table name).join.bind text?

/-- Whether a value may stand under a name: a count or a text under the name of a setting,
and anything under another name. -/
def isExpected (name : String) (value : Option Scalar) : Bool :=
  if name = "max_jobs" ∨ name = "history_size" then (value.bind number?).isSome
  else if name = "log_file" ∨ name = "prompt" then (value.bind text?).isSome
  else true

/-- Each setting that a table holds is what is expected there. -/
def IsValid (table : Entries) : Prop :=
  ∀ name value, valueAt table name = some value → isExpected name value = true

def under (settings : Settings) (table : Entries) : Settings :=
  { maxJobs := (countAt table "max_jobs").getD settings.maxJobs
    historySize := (countAt table "history_size").getD settings.historySize
    logPath := ((textAt table "log_file").map Unix.PathName.ofText).or settings.logPath
    prompt := (textAt table "prompt").or settings.prompt }

section

variable {settings : Settings} {table rest : Entries} {name : String} {item : Item}

theorem number_eq_some_iff {value : Scalar} {number : Nat} :
    number? value = some number ↔ value = .integer number ∧ (number : Int) < wordValues 64 := by
  constructor
  · intro isNumber
    unfold number? at isNumber
    split at isNumber
    next value =>
      split at isNumber
      next inRange =>
        obtain rfl := Option.some.inj isNumber
        rw [Int.toNat_of_nonneg inRange.1]
        exact ⟨rfl, inRange.2⟩
      next => cases isNumber
    next => cases isNumber
  · rintro ⟨rfl, inRange⟩
    rw [number?, if_pos ⟨Int.natCast_nonneg number, inRange⟩, Int.toNat_natCast]

theorem text_eq_some_iff {value : Scalar} {text : String} :
    text? value = some text ↔ value = .string text := by
  cases value <;> simp [text?]

theorem count_to_option (item : Item) :
    (count item).toOption = (scalar? item).bind number? := by
  cases item with
  | list span grows items => rfl
  | table span origin entries => rfl
  | scalar span value =>
      cases value with
      | integer value =>
          have bound : value ≤ (Text.Decimal.wordBound : Int) ↔ value < wordValues 64 := by
            have next : wordValues 64 = Text.Decimal.wordBound + 1 := by decide
            omega
          simp only [count, scalar?, Option.bind_some, number?, Bool.and_eq_true,
            decide_eq_true_eq, bound]
          split
          · rfl
          · split <;> rfl
      | _ => rfl

theorem string_to_option (expected : Expected) (item : Item) :
    (string expected item).toOption = (scalar? item).bind text? := by
  cases item with
  | list span grows items => rfl
  | table span origin entries => rfl
  | scalar span value => cases value <;> rfl

theorem of_scalar_eq_some {value : Scalar} (isScalar : scalar? item = some value) :
    ∃ span, item = .scalar span value := by
  cases item with
  | scalar span held => exact ⟨span, congrArg _ (Option.some.inj isScalar)⟩
  | list span grows items => cases isScalar
  | table span origin entries => cases isScalar

theorem fits_of_number {number : Nat} (isNumber : (scalar? item).bind number? = some number) :
    fits item = true := by
  obtain ⟨value, isScalar, isNumber⟩ := Option.bind_eq_some_iff.mp isNumber
  obtain ⟨span, rfl⟩ := of_scalar_eq_some isScalar
  obtain ⟨rfl, inRange⟩ := number_eq_some_iff.mp isNumber
  have low : 0 ≤ wordValues 127 := by decide
  have high : wordValues 64 ≤ wordValues 128 := by decide
  simp only [fits, scalarFits, integerFits, Bool.and_eq_true, decide_eq_true_eq]
  omega

theorem fits_of_text {text : String} (isText : (scalar? item).bind text? = some text) :
    fits item = true := by
  obtain ⟨value, isScalar, isText⟩ := Option.bind_eq_some_iff.mp isText
  obtain ⟨span, rfl⟩ := of_scalar_eq_some isScalar
  obtain rfl := text_eq_some_iff.mp isText
  rfl

theorem value_at_single (name : String) (item : Item) (other : String) :
    valueAt [(name, item)] other = if other = name then some (scalar? item) else none := by
  rw [valueAt, List.lookup_cons, List.lookup_nil]
  by_cases same : other = name
  · rw [if_pos same, same, beq_self_eq_true]
    rfl
  · rw [if_neg same, beq_false_of_ne same]
    rfl

theorem to_option_bind {ε α β : Type} (result : Except ε α) (following : α → Except ε β) :
    (result >>= following).toOption =
      result.toOption.bind fun value => (following value).toOption := by
  cases result <;> rfl

theorem to_option_return {ε α β : Type} (result : Except ε α) (value : α → β) :
    (do return value (← result) : Except ε β).toOption = result.toOption.map value := by
  cases result <;> rfl

theorem written_if_expected {α : Type} {value : Option α} {write : α → Settings}
    (fitting : ∀ found, value = some found → fits item = true)
    (expected : isExpected name (scalar? item) = value.isSome)
    (written : ∀ found, value = some found → write found = settings.under [(name, item)]) :
    value.map write =
      if fits item = true ∧ isExpected name (scalar? item) = true then
        some (settings.under [(name, item)])
      else none := by
  cases value with
  | none => rw [if_neg (by simp [expected]), Option.map_none]
  | some found =>
      rw [if_pos ⟨fitting found rfl, expected⟩, Option.map_some, written found rfl]

theorem take_to_option (settings : Settings) (name : String) (item : Item) :
    (take settings (name, item)).toOption =
      if fits item = true ∧ isExpected name (scalar? item) = true then
        some (settings.under [(name, item)])
      else none := by
  unfold take
  split
  next isEntry =>
    cases isEntry
    rw [to_option_return, count_to_option]
    refine written_if_expected (fun _ => fits_of_number) rfl fun number isNumber => ?_
    simp [under, countAt, textAt, value_at_single, isNumber]
  next isEntry =>
    cases isEntry
    rw [to_option_return, string_to_option]
    refine written_if_expected (fun _ => fits_of_text) rfl fun text isText => ?_
    simp [under, countAt, textAt, value_at_single, isText]
  next isEntry =>
    cases isEntry
    rw [to_option_return, count_to_option]
    refine written_if_expected (fun _ => fits_of_number) rfl fun number isNumber => ?_
    simp [under, countAt, textAt, value_at_single, isNumber]
  next isEntry =>
    cases isEntry
    rw [to_option_return, string_to_option]
    refine written_if_expected (fun _ => fits_of_text) rfl fun text isText => ?_
    simp [under, countAt, textAt, value_at_single, isText]
  next written noHistorySize noLogFile noMaxJobs noPrompt isEntry =>
    cases isEntry
    have expected : isExpected name (scalar? item) = true := by
      rw [isExpected, if_neg (not_or.mpr ⟨noMaxJobs, noHistorySize⟩),
        if_neg (not_or.mpr ⟨noLogFile, noPrompt⟩)]
    have same : settings.under [(name, item)] = settings := by
      simp [under, countAt, textAt, value_at_single, Ne.symm noHistorySize, Ne.symm noLogFile,
        Ne.symm noMaxJobs, Ne.symm noPrompt]
    rw [same]
    by_cases isFitting : fits item = true
    · rw [if_pos isFitting, if_pos ⟨isFitting, expected⟩]
      rfl
    · rw [if_neg isFitting, if_neg fun both => isFitting both.1]
      rfl

theorem read_cons {α : Type} (read : Scalar → Option α) (absent : name ∉ rest.map Prod.fst)
    (other : String) :
    (valueAt ((name, item) :: rest) other).join.bind read =
      ((valueAt rest other).join.bind read).or
        ((valueAt [(name, item)] other).join.bind read) := by
  rw [value_at_single, valueAt, valueAt, List.lookup_cons]
  by_cases same : other = name
  · subst same
    have missing : rest.lookup other = none := by
      rw [List.lookup_eq_none_iff]
      exact fun entry member => bne_iff_ne.mpr fun same =>
        absent (same ▸ List.mem_map_of_mem member)
    rw [beq_self_eq_true, missing, if_pos rfl]
    rfl
  · rw [beq_false_of_ne same, if_neg same]
    exact (Option.or_none).symm

theorem under_cons (settings : Settings) (absent : name ∉ rest.map Prod.fst) :
    settings.under ((name, item) :: rest) = (settings.under [(name, item)]).under rest := by
  simp only [under, countAt, textAt, read_cons _ absent, Option.getD_or, Option.map_or,
    Option.or_assoc]

/-- Entries with distinct names are taken if all of them are healthy, and then they lie over
the settings. -/
theorem take_all_to_option (settings : Settings) (distinct : table.Distinct) :
    (table.foldlM take settings).toOption =
      if ∀ entry ∈ table, fits entry.2 = true ∧ isExpected entry.1 (scalar? entry.2) = true then
        some (settings.under table)
      else none := by
  induction table generalizing settings with
  | nil => simp [under, countAt, textAt, valueAt, Except.toOption, pure, Except.pure]
  | cons entry table ih =>
      obtain ⟨name, item⟩ := entry
      obtain ⟨absent, restDistinct⟩ := List.nodup_cons.mp distinct
      rw [List.foldlM_cons, to_option_bind, take_to_option]
      simp only [List.forall_mem_cons]
      by_cases isHealthy : fits item = true ∧ isExpected name (scalar? item) = true
      · rw [if_pos isHealthy, Option.bind_some, ih _ restDistinct, ← under_cons settings absent]
        simp only [isHealthy, and_self, true_and]
      · rw [if_neg isHealthy, Option.bind_none, if_neg fun all => isHealthy all.1]

theorem entries_fit_iff : entriesFit table = true ↔ ∀ entry ∈ table, fits entry.2 = true := by
  induction table with
  | nil => simp [entriesFit]
  | cons entry table ih => rw [entriesFit, Bool.and_eq_true, ih, List.forall_mem_cons]

theorem is_valid_iff (distinct : table.Distinct) :
    IsValid table ↔ ∀ entry ∈ table, isExpected entry.1 (scalar? entry.2) = true := by
  constructor
  · intro valid entry member
    refine valid entry.1 (scalar? entry.2) ?_
    rw [valueAt, distinct.lookup_iff.mpr member, Option.map_some]
  · intro expected name value holds
    obtain ⟨item, found, rfl⟩ := Option.map_eq_some_iff.mp holds
    exact expected (name, item) (distinct.lookup_iff.mp found)

theorem in_order_perm (table : Entries) : (inOrder table).Perm table :=
  List.mergeSort_perm table _

theorem value_at_in_order (distinct : table.Distinct) (name : String) :
    valueAt (inOrder table) name = valueAt table name := by
  rw [valueAt, distinct.lookup_perm (in_order_perm table), valueAt]

/-- A table gives settings exactly when it is healthy, and then they lie over the
defaults. -/
theorem of_entries_eq_ok_iff (distinct : table.Distinct) :
    (ofEntries table).toOption = some settings ↔
      entriesFit table = true ∧ IsValid table ∧ settings = Settings.default.under table := by
  have perm := in_order_perm table
  have orderedDistinct : (inOrder table).Distinct := (perm.map Prod.fst).nodup_iff.mpr distinct
  have same : Settings.default.under (inOrder table) = Settings.default.under table := by
    simp only [under, countAt, textAt, value_at_in_order distinct]
  rw [ofEntries, take_all_to_option _ orderedDistinct, same, entries_fit_iff, is_valid_iff distinct,
    Option.ite_none_right_eq_some, Option.some.injEq]
  simp only [perm.mem_iff, forall_and, ← and_assoc, eq_comm]

end

end JobShell.Settings
