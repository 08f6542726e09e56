import JobShell.Toml.Item

/-!
# Documents

A document is read line by line. A line is blank, or adds an item to the table
that was opened last, or opens a table, or adds a table to a list of tables.
-/

namespace JobShell.Toml

set_option autoImplicit false

structure Draft where
  entries : Entries
  current : List Key

namespace Reader

def header (draft : Draft) : Reader Draft := do
  let listed ← startsWith "[["
  let (span, path) ← spanned do
    expect (if listed then "[[" else "[")
    let path ← keys
    expect (if listed then "]]" else "]")
    return path
  match path.getLast? with
  | none => malformed
  | some key =>
    let opened :=
      if listed then draft.entries.openListed path.dropLast key.name span
      else draft.entries.openTable path.dropLast key.name span
    match opened with
    | some entries => return ⟨entries, path⟩
    | none => malformed

def addToCurrent (draft : Draft) (path : List Key) (item : Item) : Option Entries :=
  Entries.within false (fun _ entries => addAt entries path item) draft.current .header
    draft.entries

def statement (draft : Draft) : Reader Draft := do
  skipBlanks
  match ← peek? with
  | none | some '#' | some '\r' | some '\n' => return draft
  | some '[' => header draft
  | some _ => return ⟨← entry skipBlanks value (addToCurrent draft), draft.current⟩

def lines : Nat → Draft → Reader Draft
  | 0, _ => malformed
  | turns + 1, draft => do
    let draft ← statement draft
    skipBlanks
    skipComment
    if ← acceptLineEnd then lines turns draft
    else if (← get).rest.isEmpty then return draft
    else malformed

/-- Reads a text, which a byte order mark may lead. -/
def document : Reader Entries := do
  let _ ← accept "\ufeff"
  let draft ← lines ((← get).rest.length + 1) ⟨[], []⟩
  return draft.entries

end Reader

def parse? (text : String) : Option Entries :=
  (Reader.document.run ⟨text.toList, .start⟩).map Prod.fst

end JobShell.Toml
