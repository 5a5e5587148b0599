import Inlay.Options.Json
import Inlay.Toml.Reader

/-! # Options as TOML

    Options are a text whose keys are the fields of `Options`.  What is left out keeps its default;
    nothing else may be present. -/

namespace Inlay.Options

open Inlay.Toml (Key Node Fault)

/-- How a number with a fraction is shown here: in full. -/
def fullLayout : Number.Layout := { maxPlaces := 400, maxZeros := 400, whole := ".0", plus := "" }

def fullFloatText (x : Float) : String :=
  match Number.classify x with
  | .nan => "NaN"
  | .infinite n => if n then "-inf" else "inf"
  | .finite b =>
      (if b.isNegative then "-" else "") ++
        (if b.m == 0 then "0.0" else fullLayout.write (Number.shortest b))

def valueWord : Toml.Value → String
  | .text s => "string " ++ Text.quoted s
  | .integer n => s!"integer `{n}`"
  | .float x => s!"floating point `{fullFloatText x}`"
  | .bool b => s!"boolean `{b}`"
  | .moment => "map"
  | .list _ => "sequence"
  | .inline _ _ _ => "map"

def nodeWord : Node → String
  | .value v _ => valueWord v
  | .table _ _ _ _ => "map"
  | .tables _ _ => "sequence"

def memberSpan (k : Key) (n : Node) : Toml.Span := n.span?.getD k.span

def mismatch {α : Type} (k : Key) (n : Node) (expected : String) : Except Fault α :=
  .error ⟨memberSpan k n, s!"invalid type: {nodeWord n}, expected {expected}"⟩

def tomlText? : Toml.Value → Option String
  | .text s => some s
  | _ => none

def keywordsOf (k : Key) (n : Node) : Except Fault KeywordOption :=
  let fault : Except Fault KeywordOption :=
    .error ⟨memberSpan k n, "data did not match any variant of untagged enum KeywordOption"⟩
  match n with
  | .value (.text s) _ => .ok (.one s)
  | .value (.list items) _ =>
      match items.mapM tomlText? with
      | some names => .ok (.many names)
      | none => fault
  | _ => fault

def withMember (o : Options) (k : Key) (n : Node) : Except Fault Options :=
  match k.text with
  | "value" => return { o with value := ← keywordsOf k n }
  | "rewrite_specifiers" =>
      match n with
      | .value (.bool b) _ => return { o with expandSpecifiers := b }
      | n => mismatch k n "a boolean"
  | "filename" =>
      match n with
      | .value (.text s) _ => return { o with fileName := some s }
      | n => mismatch k n "a string"
  | name => .error ⟨k.span, unknownField name⟩

/-- Reads options; a fault is reported with the line it stands on. -/
def ofToml (text : String) : Except String Options :=
  let options : Except Fault Options := do
    (← Toml.read text).foldlM (fun o (k, n) => withMember o k n) {}
  options.mapError (·.report text)

end Inlay.Options
