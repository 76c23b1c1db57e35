import CommandPipeline.Reply
import CommandPipeline.Text.Quoted

/-!
# The display form of replies

A reply is displayed as the name of its kind with the content in parentheses: numbers in decimal,
text and bytes quoted, elements in brackets.
-/

namespace CommandPipeline.Reply

/-- The capitalised name of a kind, which heads the display form. -/
def Kind.label : Kind → String
  | .integer => "Integer"
  | .string => "String"
  | .array => "Array"
  | .error => "Error"
  | .status => "Status"
  | .nil => "Nil"

mutual

/-- Appends the display form of a reply. -/
def pushDisplay (out : String) : Reply → String
  | .integer value => out ++ "Integer(" ++ toString value ++ ")"
  | .string bytes => out ++ "String(" ++ Text.quoteBytes bytes ++ ")"
  | .array items => pushDisplayItems (out ++ "Array([") true items ++ "])"
  | .error message => out ++ "Error(" ++ Text.quote message ++ ")"
  | .status text => out ++ "Status(" ++ Text.quote text ++ ")"
  | .nil => out ++ "Nil"

/-- Appends the display forms of elements, with a comma before each but the first. -/
def pushDisplayItems (out : String) (first : Bool) : List Reply → String
  | [] => out
  | r :: rest => pushDisplayItems (pushDisplay (if first then out else out ++ ", ") r) false rest

end

/-- The display form of a reply. -/
def display (r : Reply) : String := pushDisplay "" r

/-- The display form of a list of replies. -/
def displayAll (replies : List Reply) : String := pushDisplayItems "[" true replies ++ "]"

end CommandPipeline.Reply
