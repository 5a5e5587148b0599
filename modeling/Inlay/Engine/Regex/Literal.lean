import Inlay.Engine.Regex.Reader
import Inlay.Engine.Syntax.Expr

/-! # Regular expressions in scripts

    A literal is checked when the script is read: first its flags, then its pattern. -/

namespace Inlay.Engine.Regex

def flagsFault (flags : Units) : Option String :=
  match Flags.read flags.text.toList with
  | .error e => some e
  | .ok _ => none

def patternFault (pattern flags : Units) : Option String :=
  match Flags.read flags.text.toList with
  | .error e => some e
  | .ok f =>
      match read pattern f with
      | .error e => some e
      | .ok _ => none

def literals : Syntax.S.RegexCheck where
  flags := flagsFault
  pattern := patternFault

end Inlay.Engine.Regex
