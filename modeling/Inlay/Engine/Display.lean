import Inlay.Engine.Object.Own

/-! # Values in messages

    A value is displayed with its properties, as far as they are stored. -/

namespace Inlay.Engine

open Exec

namespace Display

/-- The properties that an object stores: indices first, then texts, then symbols. -/
def stored (o : Obj) : List (Key × Property) :=
  let listed (k : Key) : Option (Key × Property) := (o.listed? k).map (k, ·)
  let keys := (o.props.map Prod.fst).toList
  match o.kind with
  | .array items length isGrowable =>
      let indices := (List.range items.size).filter fun i => ((items[i]?).join).isSome
      let (front, back) := (orderKeys indices keys).partition (·.index?.isSome)
      let item (k : Key) : Option (Key × Property) :=
        match k.index?.bind fun i => (items[i]?).join with
        | some v => some (k, .plain v)
        | none => listed k
      front.filterMap item
        ++ (Key.text "length", ⟨.data (.nat length) isGrowable, false, false⟩)
        :: back.filterMap listed
  | .str s =>
      (Key.text "length", .fixed (.nat s.size)) :: (orderKeys [] keys).filterMap listed
  | _ => (orderKeys [] keys).filterMap listed

def symbol (m : Machine) (i : SymbolId) : String :=
  "Symbol(" ++ ((m.symbols[i]?).join.getD .empty).text ++ ")"

def key (m : Machine) : Key → String
  | .str s => s.text
  | .sym i => symbol m i

def primitive (m : Machine) : Value → String
  | .undefined => "undefined"
  | .null => "null"
  | .bool b => if b then "true" else "false"
  | .num n => if n.isMinusZero then "-0" else n.text
  | .str s => "\"" ++ s.text ++ "\""
  | .sym i => symbol m i
  | .big n => toString n ++ "n"
  | .obj _ => ""

def spaces (n : Nat) : String := "".pushn ' ' n

/-- A value with the properties of all objects in it; `above` are the objects it stands in. -/
def properties (m : Machine) : Nat → Nat → List Ref → Value → String
  | 0, _, _, _ => "[Cycle]"
  | n + 1, indent, above, .obj r =>
      if above.contains r then "[Cycle]"
      else
        let line (e : Key × Property) : String :=
          let k := key m e.1
          let text := match e.2.content with
            | .data v _ => properties m n (indent + 4) (r :: above) v
            | .accessor _ _ => "Getter & Setter"
          spaces (indent - k.length) ++ k ++ ": " ++ text
        let lines := (stored (m.heap[r]!)).map line
        "\x7b\n" ++ ",\n".intercalate lines ++ "\n" ++ spaces (indent - 4) ++ "\x7d"
  | _ + 1, _, _, v => primitive m v

def inherited (m : Machine) (k : Key) : Nat → Ref → Option Property
  | 0, _ => none
  | n + 1, r =>
      let o := m.heap[r]!
      match (stored o).lookup k with
      | some p => some p
      | none =>
          match o.proto with
          | some p => inherited m k n p
          | none => none

/-- A value; what stands in a list is shown without its own items. -/
def value (m : Machine) : Nat → Bool → Value → String
  | 0, _, _ => ""
  | n + 1, hasItems, .obj r =>
      let o := m.heap[r]!
      let braces (name : String) (items : List String) : String :=
        if items.isEmpty then name ++ "(0)"
        else if hasItems then name ++ " \x7b " ++ ", ".intercalate items ++ " \x7d"
        else name ++ "(" ++ toString items.length ++ ")"
      match o.kind with
      | .str s => "String \x7b \"" ++ s.text ++ "\" \x7d"
      | .num x => "Number \x7b " ++ primitive m (.num x) ++ " \x7d"
      | .bool b => "Boolean \x7b " ++ primitive m (.bool b) ++ " \x7d"
      | .promise s _ =>
          let text := match s with
            | .fulfilled v => value m n true v
            | .rejected v => "<rejected> " ++ value m n true v
            | .pending => "<pending>"
          "Promise \x7b " ++ text ++ " \x7d"
      | .array items length _ =>
          if !hasItems then "Array(" ++ toString length ++ ")"
          else if length == 0 then "[]"
          else
            let props := stored o
            let item (i : Nat) : String :=
              match (items[i]?).join with
              | some v => value m n false v
              | none =>
                  match props.lookup (.index i) with
                  | some ⟨.data v _, _, _⟩ => value m n false v
                  | _ => "<empty>"
            "[ " ++ ", ".intercalate ((List.range length).map item) ++ " ]"
      | .map entries =>
          braces "Map" (entries.toList.filterMap fun e => e.map fun (k, v) =>
            value m n false k ++ " → " ++ value m n false v)
      | .set items => braces "Set" (items.toList.filterMap fun e => e.map (value m n false))
      | .error _ =>
          let part (name default : String) : String :=
            match (inherited m (Key.text name) 1000 r).map Property.content with
            | some (.data (.str s) _) => s.text
            | some (.data v _) => value m n true v
            | _ => default
          let name := part "name" "<error>"
          let message := part "message" ""
          if name.isEmpty then message
          else if message.isEmpty then name
          else name ++ ": " ++ message
      | _ => properties m (m.heap.size + 1) 4 [] (.obj r)
  | _ + 1, _, v => primitive m v

def ofValue (v : Value) : Exec String := do
  let m ← get
  return value m (m.heap.size + 1) true v

end Display

end Inlay.Engine
