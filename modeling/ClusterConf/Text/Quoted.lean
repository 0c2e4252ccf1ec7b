import ClusterConf.Text.HiddenTable
import ClusterConf.Text.Ranges
set_option autoImplicit false

/-!
Texts between quotation marks in which every character can be seen: the others are written as
escapes.
-/
namespace ClusterConf.Text

/-- Whether nothing is seen of a character by itself. -/
def isHidden (c : Char) : Bool := inRanges c.toNat hiddenRanges

theorem isHidden_of_lt {c : Char} (h : c.toNat < 32) : isHidden c = true := by
  unfold isHidden inRanges hiddenRanges
  rw [List.any_cons, Bool.or_eq_true, Bool.and_eq_true, decide_eq_true_eq, decide_eq_true_eq]
  exact .inl ⟨Nat.zero_le _, Nat.le_of_lt_succ h⟩

def codePoint (c : Char) : String :=
  "\\u\x7b" ++ String.ofList (Nat.toDigits 16 c.toNat) ++ "\x7d"

def visible (c : Char) : String :=
  match c with
  | '\x00' => "\\0"
  | '\t' => "\\t"
  | '\n' => "\\n"
  | '\r' => "\\r"
  | '"' => "\\\""
  | '\\' => "\\\\"
  | c => if isHidden c then codePoint c else String.singleton c

def quoted (s : String) : String := "\"" ++ String.join (s.toList.map visible) ++ "\""

end ClusterConf.Text
