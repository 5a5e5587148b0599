import Inlay.Syntax.Problem
import Inlay.Syntax.Ast

/-! # Tokens

    The words, marks and literals that a program text is read as, with the text by which a fault
    message names each of them. -/

namespace Inlay.Syntax

inductive Punct where
  | lparen | rparen | lbrack | rbrack | lbrace | rbrace
  | semi | comma | colon | question | dot | ellipsis | arrow | atSign | hash
  | backquote | bang | tilde | increment | decrement
  | binary (op : BinaryOp)
  | assign (op : AssignOp)
  deriving DecidableEq

def Punct.text : Punct → String
  | lparen => "("
  | rparen => ")"
  | lbrack => "["
  | rbrack => "]"
  | lbrace => "\x7b"
  | rbrace => "\x7d"
  | semi => ";"
  | comma => ","
  | colon => ":"
  | question => "?"
  | dot => "."
  | ellipsis => "..."
  | arrow => "=>"
  | atSign => "@"
  | hash => "#"
  | backquote => "`"
  | bang => "!"
  | tilde => "~"
  | increment => "++"
  | decrement => "--"
  | binary op => op.text
  | assign op => op.text

inductive Token where
  | eof
  | punct (p : Punct)
  | word (name : String) (hasEscape : Bool)
  | str (value raw : String)
  | num (raw : String)
  | bigint (raw : String)
  | regex (pattern flags : String)
  | jsxName (name : String)
  | jsxText (raw : String)
  | jsxStart
  | jsxEnd
  | shebang (text : String)
  | error (problem : Problem) (span : Span)
  deriving DecidableEq

namespace Token

instance : Inhabited Token := ⟨eof⟩

/-- The words that the grammar claims for itself everywhere. -/
def keywords : List String :=
  ["await", "break", "case", "catch", "class", "const", "continue", "debugger", "default",
   "delete", "do", "else", "export", "extends", "finally", "for", "function", "if", "import",
   "in", "instanceof", "let", "new", "return", "super", "switch", "this", "throw", "try",
   "typeof", "var", "void", "while", "with", "yield"]

def isKeywordName (s : String) : Bool :=
  keywords.contains s || s == "null" || s == "true" || s == "false"

def describe : Token → String
  | eof => "<eof>"
  | punct p => p.text
  | word n _ => n
  | str _ raw => "string literal (" ++ raw ++ ")"
  | num raw => "numeric literal (" ++ raw ++ ", " ++ raw ++ ")"
  | bigint raw => "bigint literal (" ++ raw ++ ", " ++ raw ++ ")"
  | regex p f => "regexp literal (" ++ p ++ ", " ++ f ++ ")"
  | jsxName n => "jsx name (" ++ n ++ ")"
  | jsxText raw => "jsx text (" ++ raw ++ ")"
  | jsxStart => "< (jsx tag start)"
  | jsxEnd => "> (jsx tag end)"
  | shebang _ => "#!"
  | error _ _ => "<lexing error>"

/-- Whether a block comment after the token, on its line, belongs to the token. -/
def takesComment : Token → Bool
  | word n _ => !keywords.contains n
  | str .. | num .. | bigint .. | regex .. | jsxText .. => true
  | punct .semi | punct .lbrace | punct .rbrace => true
  | _ => false

def takesLineComment : Token → Bool
  | punct (.binary _) => false
  | _ => true

end Token

/-- A comment with its delimiters taken off. -/
structure Comment where
  isBlock : Bool
  span : Span
  text : String
  deriving DecidableEq

/-- A comment attached before (`isLeading`) or after a position. -/
structure Attached where
  isLeading : Bool
  pos : Nat
  comment : Comment

end Inlay.Syntax
