/-! # Tables of a TOML text

    A text is a list of keys with values, some of them under headers.  Headers and dotted keys make
    tables on the way; a table that was only made on the way can still be given a header of its own,
    and one that was made by dotted keys can only be extended by dotted keys. -/

namespace Inlay.Toml

/-- A stretch of a text, in bytes. -/
structure Span where
  start : Nat
  stop : Nat
  deriving DecidableEq

structure Key where
  text : String
  /-- The key as it stands in the text, with its quotes. -/
  written : String
  span : Span

/-- A value behind a key. -/
inductive Value where
  | text (s : String)
  | integer (n : Int)
  | float (x : Float)
  | bool (b : Bool)
  /-- A date, a time of day, or both. -/
  | moment
  | list (items : List Value)
  /-- A table in braces; whether it was made on the way, and by dotted keys. -/
  | inline (members : List (String × Value)) (isImplicit isDotted : Bool)

/-- What a key stands for. -/
inductive Node where
  | value (v : Value) (span : Span)
  | table (members : List (Key × Node)) (isImplicit isDotted : Bool) (span : Option Span)
  /-- The tables under equal headers in double brackets. -/
  | tables (all : List Node) (span : Option Span)

/-- Why a key cannot stand where it stands. -/
inductive Clash where
  /-- The key is there already; in which table, if that is known. -/
  | duplicate (key : String) (table : Option (List Key))
  /-- A dotted key goes through something that is no table. -/
  | noTable (path : List Key) (actual : String)

def pathText (path : List Key) : String := ".".intercalate (path.map Key.written)

def Clash.message : Clash → String
  | duplicate key none => s!"duplicate key `{key}`"
  | duplicate key (some []) => s!"duplicate key `{key}` in document root"
  | duplicate key (some path) => s!"duplicate key `{key}` in table `{pathText path}`"
  | noTable path actual =>
      s!"dotted key `{pathText path}` attempted to extend non-table type ({actual})"

def Value.typeName : Value → String
  | text _ => "string"
  | integer _ => "integer"
  | float _ => "float"
  | bool _ => "boolean"
  | moment => "datetime"
  | list _ => "array"
  | inline _ _ _ => "inline table"

namespace Node

def empty : Node := .table [] false false none

def span? : Node → Option Span
  | value _ s => some s
  | table _ _ _ s => s
  | tables _ s => s

def members : Node → List (Key × Node)
  | table ms _ _ _ => ms
  | _ => []

def isDotted : Node → Bool
  | table _ _ d _ => d
  | _ => false

def find? (t : Node) (k : Key) : Option Node :=
  (t.members.find? fun m => m.1.text == k.text).map Prod.snd

/-- Adds a member, or replaces the one under the same key in its place. -/
def put (t : Node) (k : Key) (n : Node) : Node :=
  match t with
  | table ms i d s =>
      if ms.any fun m => m.1.text == k.text then
        .table (ms.map fun m => if m.1.text == k.text then (m.1, n) else m) i d s
      else .table (ms ++ [(k, n)]) i d s
  | t => t

def erase (t : Node) (k : Key) : Node :=
  match t with
  | table ms i d s => .table (ms.filter fun m => m.1.text != k.text) i d s
  | t => t

/-- Changes the table that a path leads to.  Tables that are missing are made on the way. -/
def within (isDotted : Bool) (f : Node → Except Clash Node) :
    List Key → List Key → Node → Except Clash Node
  | _, [], t => f t
  | gone, k :: path, t => do
      let gone := gone ++ [k]
      match t.find? k with
      | none => return t.put k (← within isDotted f gone path (.table [] true isDotted none))
      | some (.value v _) => throw (.noTable gone v.typeName)
      | some (.tables all s) =>
          match all.getLast? with
          | some last =>
              return t.put k (.tables (all.dropLast ++ [← within isDotted f gone path last]) s)
          | none => return t
      | some (.table ms i d s) =>
          if isDotted && !i then throw (.duplicate k.text none)
          return t.put k (← within isDotted f gone path (.table ms i d s))

end Node

/-! ## A text that is being read -/

/-- The tables read so far, and the one under the last header. -/
structure Draft where
  root : Node := .empty
  current : Node := .empty
  /-- The header of the current table; the root has none. -/
  path : List Key := []
  /-- Whether the header stands in double brackets. -/
  isListed : Bool := false

namespace Draft

def repeated (path : List Key) : Clash :=
  .duplicate ((path.getLast?.map Key.written).getD "") (some path.dropLast)

/-- Puts the current table where its header says. -/
def settle (d : Draft) : Except Clash Draft :=
  match d.path.getLast? with
  | none => return { root := d.current }
  | some k => do
      let place (t : Node) : Except Clash Node :=
        if d.isListed then
          match t.find? k with
          | none => return t.put k (.tables [d.current] d.current.span?)
          | some (.tables all _) =>
              let all := all ++ [d.current]
              let span := match all.head?.bind Node.span?, d.current.span? with
                | some a, some b => some ⟨a.start, b.stop⟩
                | _, _ => none
              return t.put k (.tables all span)
          | some _ => throw (repeated d.path)
        else
          match t.find? k with
          | none | some (.table _ true _ _) => return t.put k d.current
          | some _ => throw (repeated d.path)
      return { root := ← Node.within false place [] d.path.dropLast d.root }

def add (d : Draft) (path : List Key) (k : Key) (v : Value) (span : Span) : Except Clash Draft := do
  let current := match d.current with
    | .table ms i dotted (some s) => Node.table ms i dotted (some ⟨s.start, span.stop⟩)
    | t => t
  let insert (t : Node) : Except Clash Node :=
    if t.isDotted == path.isEmpty then throw (.duplicate k.text none)
    else match t.find? k with
      | some _ => throw (.duplicate k.text (some d.path))
      | none => return t.put k (.value v span)
  return { d with current := ← Node.within true insert [] path current }

def header (d : Draft) (path : List Key) (span : Span) : Except Clash Draft := do
  let d ← d.settle
  match path.getLast? with
  | none => return d
  | some k =>
      let check (t : Node) : Except Clash Node :=
        match t.find? k with
        | none | some (.table _ true false _) => return t
        | some _ => throw (repeated path)
      let root ← Node.within false check [] path.dropLast d.root
      -- what was made on the way moves into the current table
      let members := (((tableAt path.dropLast root).find? k).map Node.members).getD []
      let root ← Node.within false (fun t => return t.erase k) [] path.dropLast root
      return { root, current := .table members false false (some span), path, isListed := false }
where
  /-- The table that a path leads to. -/
  tableAt : List Key → Node → Node
    | [], t => t
    | k :: path, t =>
        match t.find? k with
        | some (.tables all _) => tableAt path (all.getLast?.getD .empty)
        | some n => tableAt path n
        | none => .empty

def listHeader (d : Draft) (path : List Key) (span : Span) : Except Clash Draft := do
  let d ← d.settle
  match path.getLast? with
  | none => return d
  | some k =>
      let check (t : Node) : Except Clash Node :=
        match t.find? k with
        | none => return t.put k (.tables [] none)
        | some (.tables _ _) => return t
        | some _ => throw (repeated path)
      let root ← Node.within false check [] path.dropLast d.root
      return { root, current := .table [] false false (some span), path, isListed := true }

end Draft

/-! ## Tables in braces -/

namespace Value

def inlineFind? (ms : List (String × Value)) (k : Key) : Option Value := ms.lookup k.text

def inlinePut (ms : List (String × Value)) (k : Key) (v : Value) : List (String × Value) :=
  if (ms.lookup k.text).isSome then ms.map fun m => if m.1 == k.text then (m.1, v) else m
  else ms ++ [(k.text, v)]

def inlineAdd (last : Key) (v : Value) (isPlain : Bool) :
    List Key → List Key → List (String × Value) → Bool → Except Clash (List (String × Value))
  | _, [], ms, isDotted =>
      if isDotted == isPlain then throw (.duplicate last.text none)
      else if (inlineFind? ms last).isSome then throw (.duplicate last.text none)
      else return inlinePut ms last v
  | gone, k :: path, ms, _ => do
      let gone := gone ++ [k]
      match inlineFind? ms k with
      | none =>
          let inner ← inlineAdd last v isPlain gone path [] true
          return inlinePut ms k (.inline inner true true)
      | some (.inline inner i d) =>
          if !i then throw (.duplicate k.text none)
          let inner ← inlineAdd last v isPlain gone path inner d
          return inlinePut ms k (.inline inner i d)
      | some u => throw (.noTable gone u.typeName)

def ofPairs (pairs : List (List Key × Key × Value)) : Except Clash Value := do
  let ms ← pairs.foldlM (fun ms (path, k, v) => inlineAdd k v path.isEmpty [] path ms false) []
  return .inline ms false false

end Value

end Inlay.Toml
