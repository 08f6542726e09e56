import JobShell.Toml.Document
import Mathlib.Data.List.Nodup

/-!
# Names in a document

A document has at most one item under each name. Every way of adding to a table puts one
item under one name, in place of what was there, so it is enough to follow `put` through
the reader. Tables further inside are left out, as no setting is looked up there.
-/

namespace JobShell.Toml

set_option autoImplicit false

namespace Entries

variable {entries changed : Entries} {name : String} {item : Item} {path : List Key}

def Distinct (entries : Entries) : Prop :=
  (entries.map Prod.fst).Nodup

theorem names_put (name : String) (item : Item) (entries : Entries) :
    (entries.put name item).map Prod.fst =
      if name ∈ entries.map Prod.fst then entries.map Prod.fst
      else entries.map Prod.fst ++ [name] := by
  induction entries with
  | nil => rfl
  | cons entry rest ih =>
      by_cases same : entry.1 = name
      · simp [put, same]
      · have other : name ≠ entry.1 := fun equal => same equal.symm
        simp only [put, if_neg same, List.map_cons, ih, List.mem_cons, other, false_or]
        split <;> rfl

theorem Distinct.put (distinct : entries.Distinct) (name : String) (item : Item) :
    (entries.put name item).Distinct := by
  rw [Distinct, names_put]
  split
  next => exact distinct
  next absent =>
    rw [List.nodup_append_comm]
    exact List.nodup_cons.mpr ⟨absent, distinct⟩

theorem Distinct.lookup_iff (distinct : entries.Distinct) :
    entries.lookup name = some item ↔ (name, item) ∈ entries := by
  constructor
  · intro found
    obtain ⟨before, after, rfl, _⟩ := List.lookup_eq_some_iff.mp found
    exact List.mem_append_right _ List.mem_cons_self
  · intro member
    obtain ⟨before, after, rfl⟩ := List.append_of_mem member
    refine List.lookup_eq_some_iff.mpr ⟨before, after, rfl, fun entry earlier => ?_⟩
    rw [Distinct, List.map_append, List.nodup_append] at distinct
    have different := distinct.2.2 entry.1 (List.mem_map_of_mem earlier) name List.mem_cons_self
    exact bne_iff_ne.mpr different.symm

theorem Distinct.lookup_perm {other : Entries} (distinct : entries.Distinct)
    (perm : other.Perm entries) (name : String) : other.lookup name = entries.lookup name := by
  have otherDistinct : other.Distinct := (perm.map Prod.fst).nodup_iff.mpr distinct
  ext item
  rw [otherDistinct.lookup_iff, distinct.lookup_iff, perm.mem_iff]

theorem within_cons {dotted : Bool} {change : Origin → Entries → Option Entries} {key : Key}
    {origin : Origin}
    (changes : within dotted change (key :: path) origin entries = some changed) :
    ∃ item, changed = entries.put key.name item := by
  unfold within at changes
  split at changes
  next =>
    obtain ⟨_, _, isChanged⟩ := Option.bind_eq_some_iff.mp changes
    exact ⟨_, (Option.some.inj isChanged).symm⟩
  next =>
    split at changes
    · cases changes
    · obtain ⟨_, _, isChanged⟩ := Option.bind_eq_some_iff.mp changes
      exact ⟨_, (Option.some.inj isChanged).symm⟩
  next =>
    obtain ⟨_, _, isChanged⟩ := Option.bind_eq_some_iff.mp changes
    exact ⟨_, (Option.some.inj isChanged).symm⟩
  next => cases changes

theorem Distinct.within {dotted : Bool} {change : Origin → Entries → Option Entries}
    {origin : Origin}
    (keeps : ∀ origin changed, change origin entries = some changed → changed.Distinct)
    (distinct : entries.Distinct)
    (changes : Entries.within dotted change path origin entries = some changed) :
    changed.Distinct := by
  cases path with
  | nil => exact keeps origin changed changes
  | cons key path =>
      obtain ⟨item, rfl⟩ := within_cons changes
      exact distinct.put key.name item

theorem Distinct.add (distinct : entries.Distinct)
    (added : entries.add path name item = some changed) : changed.Distinct := by
  refine Distinct.within (fun origin changed changes => ?_) distinct added
  split at changes
  · cases changes
  · split at changes
    · cases changes
    · cases changes
      exact distinct.put name item

theorem Distinct.open_table {span : Span} (distinct : entries.Distinct)
    (opened : entries.openTable path name span = some changed) : changed.Distinct := by
  refine Distinct.within (fun origin changed changes => ?_) distinct opened
  split at changes
  · cases changes
    exact distinct.put name _
  · cases changes
    exact distinct.put name _
  · cases changes

theorem Distinct.open_listed {span : Span} (distinct : entries.Distinct)
    (opened : entries.openListed path name span = some changed) : changed.Distinct := by
  refine Distinct.within (fun origin changed changes => ?_) distinct opened
  split at changes
  · cases changes
    exact distinct.put name _
  · cases changes
    exact distinct.put name _
  · cases changes

end Entries

namespace Reader

variable {α β : Type}

def Yields (reader : Reader α) (good : α → Prop) : Prop :=
  ∀ source value rest, reader source = some (value, rest) → good value

theorem yields_pure {good : α → Prop} {value : α} (isGood : good value) :
    Yields (pure value) good := by
  intro source found rest read
  cases read
  exact isGood

theorem yields_malformed {good : α → Prop} : Yields malformed good := by
  intro source value rest read
  cases read

theorem yields_bind {holds : α → Prop} {good : β → Prop} {first : Reader α}
    {following : α → Reader β} (known : first.Yields holds)
    (later : ∀ value, holds value → (following value).Yields good) :
    Yields (first >>= following) good := by
  intro source value rest read
  obtain ⟨⟨middle, left⟩, readFirst, readRest⟩ := Option.bind_eq_some_iff.mp read
  exact later middle (known source middle left readFirst) left value rest readRest

theorem yields_behind {good : β → Prop} {first : Reader α} {following : α → Reader β}
    (later : ∀ value, (following value).Yields good) : Yields (first >>= following) good :=
  yields_bind (fun _ _ _ _ => trivial) fun value _ => later value

theorem header_yields {draft : Draft} (distinct : draft.entries.Distinct) :
    (header draft).Yields fun draft => draft.entries.Distinct := by
  refine yields_behind fun listed => yields_behind fun (span, path) => ?_
  dsimp only
  split
  next => exact yields_malformed
  next key isLast =>
    split
    next entries opened =>
      refine yields_pure ?_
      cases listed with
      | true => exact distinct.open_listed opened
      | false => exact distinct.open_table opened
    next => exact yields_malformed

theorem add_at_distinct {entries changed : Entries} {path : List Key} {item : Item}
    (distinct : entries.Distinct) (added : addAt entries path item = some changed) :
    changed.Distinct := by
  unfold addAt at added
  split at added
  · exact distinct.add added
  · cases added

theorem add_to_current_distinct {draft : Draft} {changed : Entries} {path : List Key}
    {item : Item} (distinct : draft.entries.Distinct)
    (added : addToCurrent draft path item = some changed) : changed.Distinct :=
  Entries.Distinct.within (fun _ _ changes => add_at_distinct distinct changes) distinct added

theorem entry_yields {skipSpace : Reader Unit} {value : Reader Item}
    {add : List Key → Item → Option Entries} {good : Entries → Prop}
    (keeps : ∀ path item entries, add path item = some entries → good entries) :
    (entry skipSpace value add).Yields good := by
  refine yields_behind fun path => yields_behind fun _ => yields_behind fun _ =>
    yields_behind fun _ => yields_behind fun item => ?_
  split
  next entries added => exact yields_pure (keeps path item entries added)
  next => exact yields_malformed

theorem statement_yields {draft : Draft} (distinct : draft.entries.Distinct) :
    (statement draft).Yields fun draft => draft.entries.Distinct := by
  refine yields_behind fun _ => yields_behind fun next => ?_
  split
  iterate 4 exact yields_pure distinct
  next => exact header_yields distinct
  next =>
    refine yields_bind (entry_yields fun path item entries added => ?_) fun _ isDistinct =>
      yields_pure isDistinct
    exact add_to_current_distinct distinct added

theorem lines_yields (turns : Nat) {draft : Draft} (distinct : draft.entries.Distinct) :
    (lines turns draft).Yields fun draft => draft.entries.Distinct := by
  induction turns generalizing draft with
  | zero => exact yields_malformed
  | succ turns ih =>
      refine yields_bind (statement_yields distinct) fun draft stillDistinct => ?_
      refine yields_behind fun _ => yields_behind fun _ => yields_behind fun ended => ?_
      split
      · exact ih stillDistinct
      · refine yields_behind fun source => ?_
        split
        · exact yields_pure stillDistinct
        · exact yields_malformed

theorem document_yields : document.Yields Entries.Distinct := by
  refine yields_behind fun _ => yields_behind fun source => ?_
  exact yields_bind (lines_yields _ List.nodup_nil) fun draft distinct => yields_pure distinct

end Reader

/-- No name is written twice in a table that was read. -/
theorem parse_distinct {text : String} {table : Entries} (parsed : parse? text = some table) :
    table.Distinct := by
  obtain ⟨⟨value, rest⟩, read, rfl⟩ := Option.map_eq_some_iff.mp parsed
  exact Reader.document_yields _ _ _ read

end JobShell.Toml
