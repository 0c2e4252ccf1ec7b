set_option autoImplicit false

/-!
Which texts are patterns, that is, regular expressions: groups and sets are closed, a repetition
mark follows something, and a backslash stands in front of a mark or of a letter with a meaning. A
number of repetitions in braces is not among them.
-/
namespace ClusterConf.Text.Pattern

/-- What a backslash may stand in front of: marks and some letters. -/
def isEscapable (c : Char) : Bool :=
  c.toNat < 0x80 && (!c.isAlphanum && c != '<' && c != '>' || "aftnrvdDsSwWpPxuUAz".contains c)

/-- Marks that repeat what is in front of them. -/
def repeats (c : Char) : Bool := c == '*' || c == '+' || c == '?'

mutual

/-- Whether a pattern goes on with some characters: behind `groups` open groups, and perhaps behind
something that can be repeated. -/
def goesOn (groups : Nat) (repeatable : Bool) : List Char → Bool
  | [] => groups == 0
  | '\\' :: c :: rest => isEscapable c && goesOn groups true rest
  | ['\\'] => false
  | '(' :: '?' :: rest => goesOn (groups + 1) false rest
  | '(' :: rest => goesOn (groups + 1) false rest
  | ')' :: rest => groups != 0 && goesOn (groups - 1) true rest
  | '|' :: rest => goesOn groups false rest
  | '\x7b' :: _ => false
  | '[' :: '^' :: ']' :: rest => setGoesOn groups 1 rest
  | '[' :: ']' :: rest => setGoesOn groups 1 rest
  | '[' :: rest => setGoesOn groups 1 rest
  | c :: rest => (repeatable || !repeats c) && goesOn groups true rest

/-- Whether a pattern goes on with some characters inside `sets` open sets. -/
def setGoesOn (groups sets : Nat) : List Char → Bool
  | [] => false
  | '\\' :: c :: rest => isEscapable c && setGoesOn groups sets rest
  | '[' :: rest => setGoesOn groups (sets + 1) rest
  | ']' :: rest => if sets ≤ 1 then goesOn groups true rest else setGoesOn groups (sets - 1) rest
  | _ :: rest => setGoesOn groups sets rest

end

def isPattern (text : String) : Bool := goesOn 0 false text.toList

end ClusterConf.Text.Pattern
