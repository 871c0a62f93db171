import FleetControl.Json.Basic

/-!
# Tables of the configuration format

A document names its tables in headers and in dotted keys. Each table remembers how it came about,
because that decides what may still be added: a header opens a table once, and a dotted key goes only
through tables that dotted keys made. `Toml.Members` is the content of a table in the order in which
names first appear.
-/

namespace FleetControl.Toml

/-- **How a table came about.** -/
inductive Origin where
  /-- A header named it. -/
  | header
  /-- A header named a table inside it. -/
  | implied
  /-- A dotted key went through it. -/
  | dotted
deriving Repr, DecidableEq, Inhabited

/-- What a name of a table stands for. -/
inductive Item where
  | leaf (value : Json)
  | table (origin : Origin) (members : List (String × Item))
  /-- Tables of one name, each opened by its own header. -/
  | tables (items : List (List (String × Item)))
deriving Inhabited

/-- The content of a table. -/
abbrev Members := List (String × Item)

namespace Members

/-- Put an item in the place of the one of that name, or at the end. -/
def set (k : String) (i : Item) : Members → Members
  | [] => [(k, i)]
  | (k', i') :: rest => if k' == k then (k, i) :: rest else (k', i') :: set k i rest

/-- Change the last of several tables. -/
def atLast (f : Members → Option Members) : List Members → Option (List Members)
  | [] => none
  | [m] => (f m).map ([·])
  | m :: ms => (atLast f ms).map (m :: ·)

/-- **Change the table at a path of header names**, making what is missing on the way. Of several
tables of one name the last is meant. -/
def atPath (f : Members → Option Members) : List String → Members → Option Members
  | [], ms => f ms
  | k :: ks, ms =>
    match ms.lookup k with
    | none => (atPath f ks []).map fun m => ms ++ [(k, .table .implied m)]
    | some (.table o m) => (atPath f ks m).map fun m' => set k (.table o m') ms
    | some (.tables items) => (atLast (atPath f ks) items).map fun i => set k (.tables i) ms
    | some (.leaf _) => none

/-- Open the table `k` of a header, which no header and no dotted key has opened before. -/
def openTable (k : String) (ms : Members) : Option Members :=
  match ms.lookup k with
  | none => some (ms ++ [(k, .table .header [])])
  | some (.table .implied m) => some (set k (.table .header m) ms)
  | _ => none

/-- Open one more of the tables `k`. -/
def openAnother (k : String) (ms : Members) : Option Members :=
  match ms.lookup k with
  | none => some (ms ++ [(k, .tables [[]])])
  | some (.tables items) => some (set k (.tables (items ++ [[]])) ms)
  | _ => none

/-- **Give a value to a dotted key.** The table that takes the value must have been made by dotted
keys, and no table of a header may lie on the way. -/
def put (v : Json) : List String → Members → Option Members
  | [], _ => none
  | [k], ms =>
    match ms.lookup k with
    | none => some (ms ++ [(k, .leaf v)])
    | some _ => none
  | k :: ks, ms =>
    match ms.lookup k with
    | none => (put v ks []).map fun m => ms ++ [(k, .table .dotted m)]
    | some (.table .dotted m) => (put v ks m).map fun m' => set k (.table .dotted m') ms
    | some (.table .implied m) =>
      if ks.length ≤ 1 then none
      else (put v ks m).map fun m' => set k (.table .implied m') ms
    | some (.tables items) =>
      if ks.length ≤ 1 then none
      else (atLast (put v ks) items).map fun i => set k (.tables i) ms
    | some (.table .header _) | some (.leaf _) => none

end Members

mutual

/-- The value of an item. -/
def Item.json : Item → Json
  | .leaf v => v
  | .table _ ms => .obj (membersJson ms)
  | .tables items => .arr (tablesJson items)

/-- The members of a table as values. -/
def membersJson : List (String × Item) → List (String × Json)
  | [] => []
  | (k, i) :: rest => (k, i.json) :: membersJson rest

/-- Several tables as values. -/
def tablesJson : List (List (String × Item)) → List Json
  | [] => []
  | ms :: rest => .obj (membersJson ms) :: tablesJson rest

end

end FleetControl.Toml
