import ClusterConf.Text.LetterTable
import ClusterConf.Text.Ranges
set_option autoImplicit false

/-!
Letters and digits of all scripts.
-/
namespace ClusterConf.Text

/-- Whether a character is a letter or a digit of any script. -/
def isLetterOrDigit (c : Char) : Bool := c.isAlphanum || inRanges c.toNat letterRanges

theorem isLetterOrDigit_of_isAlphanum {c : Char} (h : c.isAlphanum = true) :
    isLetterOrDigit c = true := by
  simp [isLetterOrDigit, h]

end ClusterConf.Text
