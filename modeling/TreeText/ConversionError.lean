/-
# Why conversions fail

The causes for which a conversion ends without a text, with their wording. A cause is handed on
unchanged from where it arises to the end of the conversion.
-/
import TreeText.Text.Utf8

namespace TreeText

/-- The causes for which a conversion ends without a text. -/
inductive ConversionError where
  | invalidInput (fault : Text.Utf8.Fault)
  | ruleWithoutAnswer (selector : String)
  | fallbackWithoutAnswer (tag : String)
  | callback (message : String)
  deriving DecidableEq, Repr

/-- The wording of a cause. -/
def ConversionError.message : ConversionError → String
  | invalidInput fault => "invalid input: " ++ fault.message
  | ruleWithoutAnswer selector =>
    "the format handler for the selector \"" ++ selector ++ "\" must return content"
  | fallbackWithoutAnswer tag =>
    "the fallback handler must return content (element <" ++ tag ++ ">)"
  | callback message => "rule callback failed: " ++ message

end TreeText
