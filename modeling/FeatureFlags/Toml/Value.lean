/-!
# TOML values

What a TOML text says. Tables remember how they were made, because that decides
whether a later line of the text may add to them. Floats and dates are told from
other values and not kept: settings have none.
-/

namespace FeatureFlags.Toml

/-- How a table came to be. -/
inductive Origin
  /-- Its own header, or the beginning of the text. -/
  | header
  /-- The header of a table inside it. -/
  | implied
  /-- A dotted key. -/
  | dotted
  /-- Braces, which close it for good. -/
  | inline
  deriving DecidableEq, Inhabited

inductive Value : Type
  | string (s : String)
  | integer (i : Int)
  | float
  | boolean (b : Bool)
  | datetime
  /-- An array; one that is `grown` by headers takes further tables. -/
  | array (grown : Bool) (items : List Value)
  | table (origin : Origin) (entries : List (String × Value))
  deriving Inhabited

/-- The entries of a table, in the order in which they are written. -/
abbrev Entries := List (String × Value)

namespace Entries

/-- The entries with one key given a value. -/
def put (entries : Entries) (key : String) (value : Value) : Entries :=
  if entries.any (·.1 = key) then
    entries.map fun entry => if entry.1 = key then (key, value) else entry
  else entries ++ [(key, value)]

/-- A change of the table that keys lead to from a table. Tables that are missing on the
    way are made. The way leads through tables and through the last table of an array of
    tables, never into an inline table; a dotted key does not lead into a table with a
    header of its own. -/
def update (dotted : Bool) (change : Origin → Entries → Option Entries) :
    Origin → Entries → List String → Option Entries
  | origin, entries, [] => change origin entries
  | _, entries, key :: rest =>
    match entries.lookup key with
    | none => do
      let origin := if dotted then Origin.dotted else .implied
      let below ← update dotted change origin [] rest
      some (entries.put key (.table origin below))
    | some (.table origin inner) => do
      if origin = .inline ∨ (dotted ∧ origin = .header) then none
      else
        let below ← update dotted change origin inner rest
        some (entries.put key (.table origin below))
    | some (.array true items) =>
      match items.getLast? with
      | some (.table origin inner) => do
        let below ← update dotted change origin inner rest
        some (entries.put key (.array true (items.dropLast ++ [.table origin below])))
      | _ => none
    | some _ => none

/-- A value added under a key that is new. A table made by dotted keys takes values by
    dotted keys only, and every other table by plain keys only. -/
def add (dotted : Bool) (key : String) (value : Value) (origin : Origin) (entries : Entries) :
    Option Entries :=
  if dotted ≠ decide (origin = .dotted) then none
  else if entries.any (·.1 = key) then none
  else some (entries ++ [(key, value)])

/-- A value added under a dotted key, as seen from a table. -/
def addAt (keys : List String) (value : Value) (origin : Origin) (entries : Entries) :
    Option Entries := do
  let key ← keys.getLast?
  let way := keys.dropLast
  update true (add (!way.isEmpty) key value) origin entries way

/-- The table of a header made, or an implied one taken over. -/
def openTable (key : String) (_origin : Origin) (entries : Entries) : Option Entries :=
  match entries.lookup key with
  | none => some (entries.put key (.table .header []))
  | some (.table .implied inner) => some (entries.put key (.table .header inner))
  | some _ => none

/-- One more table in the array of a header. -/
def growArray (key : String) (_origin : Origin) (entries : Entries) : Option Entries :=
  match entries.lookup key with
  | none => some (entries.put key (.array true [.table .header []]))
  | some (.array true items) => some (entries.put key (.array true (items ++ [.table .header []])))
  | some _ => none

end Entries

end FeatureFlags.Toml
