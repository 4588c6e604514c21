import Phrasebook.Pattern.Basic

/-!
# The written form of patterns: tokens

A written pattern is a sequence of tokens: character classes, parentheses, bars, anchors and
quantifiers. `Token.scan` cuts a text into tokens. It refuses what is malformed: a brace or a
closing bracket that stands alone, an escape of an ordinary character, and a range or a count whose
ends are out of order.

The tokens are those of a part of the syntax of Unicode patterns only. These forms are well formed
there and refused here all the same: the assertions `\b`, `\B`, `(?=`, `(?!`, `(?<=` and `(?<!`;
named groups and groups with modifiers; references to groups, by number or with `\k`; and every
property but `L`, `N`, `Lu` and `Ll`, such as `\p{Nd}` and `\p{Script=Greek}`. A result that a text
is refused speaks of these tokens; results about what is refused in general take what reads patterns
as a parameter.
-/

namespace Phrasebook

/-- A token of a written pattern. -/
inductive Token where
  | one (k : CharClass)
  | opening (capturing : Bool)
  | closing
  | bar
  | quantifier (least : Nat) (most : Option Nat) (greedy : Bool)
  | atStart
  | atEnd
  deriving DecidableEq, Repr

namespace Token

/-! ## Numbers

A reader returns what it has read and the text after it, or nothing where the text has not the form
that it reads.
-/

/-- Exactly `count` hexadecimal digits; `acc` is the value of those before them. -/
def hexDigits (acc : Nat) : (count : Nat) → List Char → Option (Nat × List Char)
  | 0, s => some (acc, s)
  | n + 1, c :: s => do hexDigits (acc * 16 + (← Text.digitValue? c)) n s
  | _ + 1, [] => none

/-- Hexadecimal digits up to a closing brace; `started` says that there has been one. -/
def bracedHex (started : Bool) (acc : Nat) : List Char → Option (Nat × List Char)
  | [] => none
  | c :: s =>
    if c = '\x7d' then if started then some (acc, s) else none
    else do bracedHex true (acc * 16 + (← Text.digitValue? c)) s

/-- Decimal digits, at least one. -/
def decimal (s : List Char) : Option (Nat × List Char) := do
  let n ← Text.ofDigits? 10 (s.takeWhile Text.isDigit)
  some (n, s.dropWhile Text.isDigit)

/-! ## Escapes -/

/-- The characters with a meaning of their own, which an escape makes ordinary. -/
def special : List Char :=
  ['^', '$', '\\', '.', '*', '+', '?', '(', ')', '[', ']', '\x7b', '\x7d', '|', '/']

/-- The classes named by a property. -/
def property? : List Char → Option NamedClass
  | ['L'] => some .letter
  | ['N'] => some .number
  | ['L', 'u'] => some .upper
  | ['L', 'l'] => some .lower
  | _ => none

/-- The name of a property in braces. -/
def braced : List Char → Option (NamedClass × List Char)
  | '\x7b' :: s => do
    let kind ← property? (s.takeWhile (· != '\x7d'))
    match s.dropWhile (· != '\x7d') with
    | _ :: rest => some (kind, rest)
    | [] => none
  | _ => none

/-- A code point after `\u`: braced, four digits, or two surrogates that make one code point. -/
def codePoint : List Char → Option (Nat × List Char)
  | '\x7b' :: s => do
    let (n, rest) ← bracedHex false 0 s
    if n ≤ 0x10FFFF then some (n, rest) else none
  | s => do
    let (n, rest) ← hexDigits 0 4 s
    if 0xD800 ≤ n ∧ n < 0xDC00 then
      match rest with
      | '\\' :: 'u' :: s' =>
        match hexDigits 0 4 s' with
        | some (m, rest') =>
          if 0xDC00 ≤ m ∧ m < 0xE000 then
            some (0x10000 + (n - 0xD800) * 0x400 + (m - 0xDC00), rest')
          else some (n, rest)
        | none => some (n, rest)
      | _ => some (n, rest)
    else some (n, rest)

/-- The class item of one code point. -/
def point (n : Nat) : ClassItem := .range n n

/-- What follows a backslash. Inside a class a hyphen and the backspace can be escaped too. -/
def escape (inClass : Bool) : List Char → Option (ClassItem × List Char)
  | [] => none
  | 'd' :: s => some (.named .digit false, s)
  | 'D' :: s => some (.named .digit true, s)
  | 'w' :: s => some (.named .word false, s)
  | 'W' :: s => some (.named .word true, s)
  | 's' :: s => some (.named .blank false, s)
  | 'S' :: s => some (.named .blank true, s)
  | 'p' :: s => do let (kind, rest) ← braced s; some (.named kind false, rest)
  | 'P' :: s => do let (kind, rest) ← braced s; some (.named kind true, rest)
  | 't' :: s => some (point 0x09, s)
  | 'n' :: s => some (point 0x0A, s)
  | 'v' :: s => some (point 0x0B, s)
  | 'f' :: s => some (point 0x0C, s)
  | 'r' :: s => some (point 0x0D, s)
  | '0' :: s => if (s.head?.map Text.isDigit).getD false then none else some (point 0, s)
  | 'x' :: s => do let (n, rest) ← hexDigits 0 2 s; some (point n, rest)
  | 'u' :: s => do let (n, rest) ← codePoint s; some (point n, rest)
  | 'c' :: c :: s => if c.isAlpha then some (point (c.toNat % 32), s) else none
  | c :: s =>
    if special.contains c then some (point c.toNat, s)
    else if inClass ∧ c = '-' then some (point c.toNat, s)
    else if inClass ∧ c = 'b' then some (point 0x08, s)
    else none

/-! ## Classes in brackets -/

/-- One member of a class, a range not yet seen as such. -/
def classAtom : List Char → Option (ClassItem × List Char)
  | [] => none
  | '\\' :: s => escape true s
  | c :: s => some (point c.toNat, s)

/-- The members of a class up to its closing bracket. The fuel is the length of the text. -/
def classItems : Nat → List Char → Option (List ClassItem × List Char)
  | _, ']' :: s => some ([], s)
  | 0, _ => none
  | fuel + 1, s => do
    let (a, rest) ← classAtom s
    let (item, rest) ← match rest with
      | '-' :: c :: rest' =>
        if c = ']' then some (a, rest)
        else do
          let (b, rest'') ← classAtom (c :: rest')
          match a, b with
          | .range first _, .range last _ =>
            if first ≤ last then some (.range first last, rest'') else none
          | _, _ => none
      | _ => some (a, rest)
    let (items, rest) ← classItems fuel rest
    some (item :: items, rest)

/-- A class after its opening bracket. -/
def bracketed : List Char → Option (CharClass × List Char)
  | '^' :: s => do let (items, rest) ← classItems s.length s; some (⟨items, true⟩, rest)
  | s => do let (items, rest) ← classItems s.length s; some (⟨items, false⟩, rest)

/-! ## Quantifiers -/

/-- The counts of a quantifier after its opening brace. -/
def counts (s : List Char) : Option ((Nat × Option Nat) × List Char) := do
  let (least, rest) ← decimal s
  match rest with
  | '\x7d' :: rest => some ((least, some least), rest)
  | ',' :: '\x7d' :: rest => some ((least, none), rest)
  | ',' :: rest =>
    let (most, rest) ← decimal rest
    match rest with
    | '\x7d' :: rest => if least ≤ most then some ((least, some most), rest) else none
    | _ => none
  | _ => none

/-- A quantifier with the mark that follows it: a question mark prefers fewer repetitions. -/
def quantified (least : Nat) (most : Option Nat) : List Char → Token × List Char
  | '?' :: s => (.quantifier least most false, s)
  | s => (.quantifier least most true, s)

/-! ## The token at the start of a text -/

/-- The first token. -/
def next : List Char → Option (Token × List Char)
  | [] => none
  | '(' :: '?' :: ':' :: s => some (.opening false, s)
  | '(' :: '?' :: _ => none
  | '(' :: s => some (.opening true, s)
  | ')' :: s => some (.closing, s)
  | '|' :: s => some (.bar, s)
  | '^' :: s => some (.atStart, s)
  | '$' :: s => some (.atEnd, s)
  | '.' :: s => some (.one .notLineEnd, s)
  | '*' :: s => some (quantified 0 none s)
  | '+' :: s => some (quantified 1 none s)
  | '?' :: s => some (quantified 0 (some 1) s)
  | '\x7b' :: s => do let ((least, most), rest) ← counts s; some (quantified least most rest)
  | '\x7d' :: _ => none
  | ']' :: _ => none
  | '[' :: s => do let (k, rest) ← bracketed s; some (.one k, rest)
  | '\\' :: s => do let (item, rest) ← escape false s; some (.one ⟨[item], false⟩, rest)
  | c :: s => some (.one (.single c.toNat), s)

/-- All tokens, read with fuel: a token takes at least one character. -/
def scanWith : Nat → List Char → Option (List Token)
  | _, [] => some []
  | 0, _ :: _ => none
  | fuel + 1, c :: s => do
    let (t, rest) ← next (c :: s)
    let ts ← scanWith fuel rest
    some (t :: ts)

/-- The tokens of a written pattern. -/
def scan (s : List Char) : Option (List Token) := scanWith s.length s

end Token

end Phrasebook
