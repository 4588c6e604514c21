import Phrasebook.Rule.Basic

/-!
# The standard rules

Seventeen rules. A rule with a broad pattern has to stand after the rules whose instructions it
accepts too: `print (.+)` takes every instruction of the four printing rules in front of it.

`standardDefinitions` models `DEFAULT_RULE_DEFINITIONS`, and `standardRules` models `DEFAULT_RULES`.
-/

namespace Phrasebook

/-- The definitions of the standard rules, in the order in which they are tried. -/
def standardDefinitions : List RuleDefinition :=
  [{ id := "print-range"
     template := "print numbers from X to Y"
     description := "Print range of numbers"
     sample := "print numbers from 1 to 5"
     pattern := "print numbers from (\\d+) to (\\d+)"
     snippet := .printRange },
   { id := "print-list"
     template := "print list"
     description := "Print the list"
     sample := "print list"
     pattern := "print list"
     snippet := .fixed "print(my_list)" },
   { id := "print-string"
     template := "print string"
     description := "Print the string"
     sample := "print string"
     pattern := "print string"
     snippet := .fixed "print(my_string)" },
   { id := "print-dictionary"
     template := "print dictionary"
     description := "Print dictionary"
     sample := "print dictionary"
     pattern := "print dictionary"
     snippet := .fixed "print(my_dict)" },
   { id := "print-text"
     template := "print [text]"
     description := "Print any text"
     sample := "print hello world"
     pattern := "print (.+)"
     snippet := .printText },
   { id := "arithmetic"
     template := "add/subtract/multiply/divide X and Y"
     description := "Math operations"
     sample := "add 10 and 20"
     pattern := "(add|subtract|multiply|divide) (\\d+) and (\\d+)"
     snippet := .arithmetic },
   { id := "create-list"
     template := "create list X,Y,Z"
     description := "Create a list"
     sample := "create list 1,2,3"
     pattern := "create list (.+)"
     snippet := .createList },
   { id := "append-list"
     template := "append X to list"
     description := "Add to list"
     sample := "append 6 to list"
     pattern := "append (.+) to list"
     snippet := .appendToList },
   { id := "sort-list"
     template := "sort list"
     description := "Sort the list"
     sample := "sort list"
     pattern := "sort list"
     snippet := .fixed "my_list.sort()" },
   { id := "square"
     template := "square X"
     description := "Square a number"
     sample := "square 5"
     pattern := "square (\\d+)"
     snippet := .square },
   { id := "create-string"
     template := "create string X"
     description := "Create a string"
     sample := "create string hello python"
     pattern := "create string (.+)"
     snippet := .createString },
   { id := "uppercase-string"
     template := "uppercase string"
     description := "Convert to uppercase"
     sample := "uppercase string"
     pattern := "uppercase string"
     snippet := .fixed "my_string = my_string.upper()" },
   { id := "create-dictionary"
     template := "create dictionary key:value"
     description := "Create dictionary"
     sample := "create dictionary name:john, age:25"
     pattern := "create dictionary (.+)"
     snippet := .createDictionary },
   { id := "conditional"
     template := "if X equals Y then print Z"
     description := "Simple if statement"
     sample := "if x equals 10 then print correct"
     pattern := "if ([\\p\x7bL\x7d\\p\x7bN\x7d_]+) equals (\\d+) then print (.+)"
     snippet := .conditional },
   { id := "loop-list"
     template := "loop list"
     description := "Loop through list"
     sample := "loop list"
     pattern := "loop list"
     snippet := .fixed "for item in my_list:\n    print(item)" },
   { id := "ask-input"
     template := "ask input [message]"
     description := "Get user input"
     sample := "ask input enter your name:"
     pattern := "ask input (.+)"
     snippet := .askInput },
   { id := "help"
     template := "help"
     description := "Show this message"
     sample := "help"
     pattern := "help|show commands"
     snippet := .help }]

/-- The table of the standard rules. -/
def standardRules : RuleTable :=
  match RuleTable.build standardDefinitions with
  | .ok rules => rules
  | .error _ => []

example : standardRules.map (·.id) = standardDefinitions.map (·.id) := by decide +kernel

end Phrasebook
