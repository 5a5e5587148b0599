/-! # Failures

    Why an expansion did not succeed.  Failures that belong to a file name it and may carry the
    place in it; the first place given is the one that stays. -/

namespace Inlay

/-- A line and a column of a file, both counted from one. -/
structure Place where
  line : Nat
  column : Nat
  deriving DecidableEq

def Place.text (p : Place) : String := s!"{p.line}:{p.column}"

/-- A failure of reading options, of expanding a file or of writing the result. -/
inductive Failure where
  | config (message : String)
  | parse (file message : String) (place : Option Place)
  | compile (file message : String) (place : Option Place)
  | execution (file message : String) (place : Option Place)
  | serialization (file type message : String) (place : Option Place)
  | specifier (file found : String) (place : Option Place)
  | emit (message : String)
  | io (message : String)
  deriving DecidableEq

namespace Failure

def place : Failure → Option Place
  | parse _ _ p | compile _ _ p | execution _ _ p | serialization _ _ _ p | specifier _ _ p => p
  | config _ | emit _ | io _ => none

/-- Adds a place to a failure that belongs to a file and has none yet. -/
def at? (f : Failure) (p : Option Place) : Failure :=
  match f with
  | parse file m none => parse file m p
  | compile file m none => compile file m p
  | execution file m none => execution file m p
  | serialization file t m none => serialization file t m p
  | specifier file found none => specifier file found p
  | other => other

def headOf (file : String) (place : Option Place) : String :=
  match place with
  | some p => s!"{file}:{p.text}"
  | none => file

def message : Failure → String
  | config m => s!"invalid configuration: {m}"
  | parse file m p => s!"{headOf file p}: failed to parse input: {m}"
  | compile file m p => s!"{headOf file p}: failed to compile fragment: {m}"
  | execution file m p => s!"{headOf file p}: fragment threw during execution: {m}"
  | serialization file t m p =>
      s!"{headOf file p}: cannot represent exported {t} as a literal: {m}"
  | specifier file found p =>
      s!"{headOf file p}: module specifier must expand to a string literal, found {found}"
  | emit m => s!"failed to emit code: {m}"
  | io m => s!"IO error: {m}"

def code : Failure → String
  | config _ => "precall::config"
  | parse .. => "precall::parse"
  | compile .. => "precall::compile"
  | execution .. => "precall::execution"
  | serialization .. => "precall::serialization"
  | specifier .. => "precall::specifier"
  | emit _ => "precall::emit"
  | io _ => "precall::io"

def help? : Failure → Option String
  | config _ => some "`value` must be an identifier or a non-empty list of identifiers"
  | compile .. => some "the fragment must be a self-contained script assigning `module.exports`"
  | serialization .. => some "export undefined, a function, or a JSON-compatible value"
  | _ => none

end Failure

end Inlay
