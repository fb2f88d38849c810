/-!
# TOML documents

A document is a tree of tables that grows line by line. Headers and dotted keys open tables on the
way to the one that they name, and the rules below say which tables they may open again: none that
was closed by its own definition.
-/

namespace RegistrySession.Toml

/-- How a table came to be: on the way of a header, on the way of a dotted key, or by a definition
of its own. -/
inductive Origin
  | header
  | dottedKey
  | definition
  deriving DecidableEq

inductive Scalar
  | text (value : String)
  | integer (value : Int)
  /-- Any other value: a float, a boolean, a moment, an array or an inline table. -/
  | other
  deriving DecidableEq

inductive Node
  | leaf (value : Scalar)
  | table (origin : Origin) (entries : List (String × Node))
  /-- An array of tables, the last of which is open. -/
  | tables (elements : List (List (String × Node)))

abbrev Entries := List (String × Node)

namespace Entries

def find? (entries : Entries) (key : String) : Option Node :=
  (List.find? (fun entry => entry.1 = key) entries).map Prod.snd

def replace (entries : Entries) (key : String) (node : Node) : Entries :=
  entries.map fun entry => if entry.1 = key then (key, node) else entry

def changeLast? (elements : List Entries) (change : Entries → Option Entries) :
    Option (List Entries) :=
  match elements.reverse with
  | [] => none
  | last :: others => (change last).map fun last => (last :: others).reverse

/-- Puts a value under a dotted key, given as the tables on the way and the last part. The flags
tell whether the table at hand was made by a dotted key and whether the way starts in it: a dotted
key may not end in a table that was made otherwise, nor a plain key in one that a dotted key made.
-/
def put? (isDotted isStart : Bool) (entries : Entries) :
    List String → String → Node → Option Entries
  | [], key, node =>
    if isDotted = isStart then none
    else if (entries.find? key).isSome then none
    else some (entries ++ [(key, node)])
  | step :: steps, key, node =>
    match entries.find? step with
    | none => do
      let inner ← put? true false [] steps key node
      some (entries ++ [(step, .table .dottedKey inner)])
    | some (.table .definition _) => none
    | some (.table origin inner) => do
      let inner ← put? (origin = .dottedKey) false inner steps key node
      some (entries.replace step (.table origin inner))
    | some (.tables elements) => do
      let elements ← changeLast? elements fun last => put? false false last steps key node
      some (entries.replace step (.tables elements))
    | some (.leaf _) => none

/-- Changes the table that a header names, by way of the tables before it. -/
def within? (change : Entries → Option Entries) : List String → Entries → Option Entries
  | [], entries => change entries
  | step :: steps, entries =>
    match entries.find? step with
    | none => do
      let inner ← within? change steps []
      some (entries ++ [(step, .table .header inner)])
    | some (.table origin inner) => do
      let inner ← within? change steps inner
      some (entries.replace step (.table origin inner))
    | some (.tables elements) => do
      let elements ← changeLast? elements (within? change steps)
      some (entries.replace step (.tables elements))
    | some (.leaf _) => none

/-- Defines a table. One that so far only lay on the way of headers keeps its entries. -/
def define? (key : String) (entries : Entries) : Option Entries :=
  match entries.find? key with
  | none => some (entries ++ [(key, .table .definition [])])
  | some (.table .header inner) => some (entries.replace key (.table .definition inner))
  | _ => none

def addElement? (key : String) (entries : Entries) : Option Entries :=
  match entries.find? key with
  | none => some (entries ++ [(key, .tables [[]])])
  | some (.tables elements) => some (entries.replace key (.tables (elements ++ [[]])))
  | _ => none

end Entries

end RegistrySession.Toml
