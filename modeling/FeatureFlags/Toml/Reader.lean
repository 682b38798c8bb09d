import FeatureFlags.Toml.Scalar

/-!
# Reading TOML texts

A text is a sequence of lines that set a key or open a table. Values nest at most
`maxDepth` deep.
-/

namespace FeatureFlags.Toml

mutual

/-- A value at the front of a text, inside `depth` others. -/
def readValue (depth : Nat) : Nat → List Char → Option (Value × List Char)
  | 0, _ => none
  | fuel + 1, cs =>
    match cs with
    | '"' :: _ | '\'' :: _ => do
      let (s, rest) ← readString? cs
      some (.string s, rest)
    | '[' :: rest =>
      if maxDepth ≤ depth then none
      else do
        let (items, rest) ← readItems (depth + 1) fuel rest
        some (.array false items, rest)
    | '\x7b' :: rest =>
      if maxDepth ≤ depth then none
      else do
        let (entries, rest) ← readEntries (depth + 1) [] fuel rest
        some (.table .inline entries, rest)
    | _ => do
      let (word, rest) := readWord cs
      some (← wordValue? word, rest)

/-- The items of an array up to its closing bracket; a comma may follow the last one. -/
def readItems (depth : Nat) : Nat → List Char → Option (List Value × List Char)
  | 0, _ => none
  | fuel + 1, cs =>
    match skipLines cs.length cs with
    | ']' :: rest => some ([], rest)
    | cs => do
      let (item, rest) ← readValue depth fuel cs
      match skipLines rest.length rest with
      | ',' :: rest => do
        let (items, rest) ← readItems depth fuel rest
        some (item :: items, rest)
      | ']' :: rest => some ([item], rest)
      | _ => none

/-- The entries of an inline table up to its closing brace, added to those before; a
    comma may follow the last one. Lines may end before and after every part of an
    entry, but not between the keys joined by dots. -/
def readEntries (depth : Nat) (entries : Entries) : Nat → List Char → Option (Entries × List Char)
  | 0, _ => none
  | fuel + 1, cs =>
    match skipLines cs.length cs with
    | '\x7d' :: rest => some (entries, rest)
    | cs => do
      let (keys, rest) ← readKeys cs
      let rest ← readChar '=' (skipLines rest.length rest)
      let (value, rest) ← readValue depth fuel (skipLines rest.length rest)
      let entries ← entries.addAt keys value .header
      match skipLines rest.length rest with
      | ',' :: rest => readEntries depth entries fuel rest
      | '\x7d' :: rest => some (entries, rest)
      | _ => none

end

/-- What has been read of a text: its table, and the keys that lead to the table that is
    open. -/
structure Progress where
  root : Entries := []
  current : List String := []

namespace Progress

/-- A line that sets a key. -/
def set (progress : Progress) (keys : List String) (value : Value) : Option Progress := do
  let root ← Entries.update false (fun origin entries => entries.addAt keys value origin)
    .header progress.root progress.current
  some { progress with root }

/-- A header, of a table or of one more table in an array. -/
def opened (progress : Progress) (inArray : Bool) (keys : List String) : Option Progress := do
  let key ← keys.getLast?
  let change := if inArray then Entries.growArray key else Entries.openTable key
  let root ← Entries.update false change .header progress.root keys.dropLast
  some ⟨root, keys⟩

end Progress

/-- One line at the front of a text that does not begin with blanks. -/
def readLine (progress : Progress) (cs : List Char) : Option (Progress × List Char) :=
  match cs with
  | '[' :: '[' :: rest => do
    let (keys, rest) ← readKeys rest
    let rest ← readChar ']' rest
    let rest ← readChar ']' rest
    some (← progress.opened true keys, ← endLine rest)
  | '[' :: rest => do
    let (keys, rest) ← readKeys rest
    let rest ← readChar ']' rest
    some (← progress.opened false keys, ← endLine rest)
  | _ => do
    let (keys, rest) ← readKeys cs
    let rest ← readChar '=' rest
    let rest := skipBlanks rest
    let (value, rest) ← readValue 0 (2 * rest.length + 2) rest
    some (← progress.set keys value, ← endLine rest)

/-- All lines of a text. -/
def readLinesFrom (progress : Progress) : Nat → List Char → Option Progress
  | 0, _ => none
  | fuel + 1, cs =>
    match skipLines cs.length cs with
    | [] => some progress
    | cs => do
      let (progress, rest) ← readLine progress cs
      readLinesFrom progress fuel rest

/-- The entries of a text. A byte-order mark at its front is passed over. -/
def entries? (text : String) : Option Entries := do
  let cs := match text.toList with
    | '\ufeff' :: rest => rest
    | cs => cs
  let progress ← readLinesFrom {} (cs.length + 1) cs
  some progress.root

end FeatureFlags.Toml
