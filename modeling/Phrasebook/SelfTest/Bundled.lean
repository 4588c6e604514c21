import Phrasebook.SelfTest.CaseFile

/-!
# The bundled cases

The cases that a self-test runs when no file is named: at least one instruction for each rule, and
one that no rule accepts.

These are the cases of `DEFAULT_CASE_FILE`.
-/

namespace Phrasebook.SelfTest

/-- The bundled cases. -/
def bundledCases : List Case :=
  [⟨"print hello world", "print(\"hello world\")"⟩,
   ⟨"print numbers from 1 to 5", "for i in range(1, 6):\n    print(i)"⟩,
   ⟨"add 10 and 20", "print(10 + 20)"⟩,
   ⟨"divide 9 and 3", "print(9 / 3)"⟩,
   ⟨"create list 1,2,3,4,5", "my_list = [1, 2, 3, 4, 5]"⟩,
   ⟨"create list 1,2,apple", "my_list = [1, 2, \"apple\"]"⟩,
   ⟨"append 6 to list", "my_list.append(6)"⟩,
   ⟨"sort list", "my_list.sort()"⟩,
   ⟨"print list", "print(my_list)"⟩,
   ⟨"square 5", "print(5 ** 2)"⟩,
   ⟨"create string hello python", "my_string = \"hello python\""⟩,
   ⟨"uppercase string", "my_string = my_string.upper()"⟩,
   ⟨"print string", "print(my_string)"⟩,
   ⟨"create dictionary name:john, age:25",
    "my_dict = \x7b\"name\": \"john\", \"age\": 25\x7d"⟩,
   ⟨"print dictionary", "print(my_dict)"⟩,
   ⟨"if x equals 10 then print correct", "if x == 10: print(\"correct\")"⟩,
   ⟨"loop list", "for item in my_list:\n    print(item)"⟩,
   ⟨"ask input Enter your name:", "user_input = input(\"enter your name:\")"⟩,
   ⟨"help", "# Available commands:"⟩,
   ⟨"do a backflip", "# I don't understand."⟩]

end Phrasebook.SelfTest
