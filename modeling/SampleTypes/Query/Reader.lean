import SampleTypes.Query.Basic
import SampleTypes.Json.Literal

/-!
# Reading filters

From weakest to strongest: `|`, `,`, `//`, `or`, `and`, then `==` and `!=`, then `+` and `-`; the
steps of a path come right after the term that they start from.  A question mark after a step makes
this step lenient; after a term it drops the term's failures.  A name that is not known is an error,
also where it would never be used.
-/

namespace SampleTypes.Query

open Json (Cursor Value)

/-- A token of a filter. -/
inductive Token where
  /-- A name right after a point. -/
  | field (name : String)
  | name (text : String)
  | string (text : String)
  | number (value : Json.Number)
  | symbol (text : String)
deriving Inhabited

/-- A letter or an underscore. -/
def isNameStart (c : Char) : Bool :=
  c.isAlpha || c == '_'

/-- A letter, a digit or an underscore. -/
def isNamePart (c : Char) : Bool :=
  c.isAlphanum || c == '_'

/-- The symbols of two characters. -/
def doubleSymbols : List (List Char) :=
  [['/', '/'], ['=', '='], ['!', '='], ['.', '.']]

/-- The symbols of one character. -/
def singleSymbols : List Char :=
  ['.', '[', ']', '\x7b', '\x7d', '(', ')', ',', '|', ':', '?', '+', '-']

/-- A number at the start of a text, and what follows it; a whole number may have zeros in front. -/
def readNumber? (cs : List Char) : Option (Json.Number × List Char) :=
  let isWhole := !((cs.dropWhile Char.isDigit).head?.any fun c => c == '.' || c == 'e' || c == 'E')
  let isPadded := isWhole && (cs.drop 1).head?.any Char.isDigit
  let digits := if isPadded then cs.dropWhile (· == '0') else cs
  if isPadded && !digits.head?.any Char.isDigit then some (.integer 0, digits)
  else
    match Json.readNumber false ⟨digits, 1, 0⟩ with
    | .ok (n, after) => some (n, after.rest)
    | .error _ => none

/-- The token that comes next in a text that starts with no blank, and what follows it. -/
def nextToken? (cs : List Char) : Option (Token × List Char) :=
  match cs with
  | [] => none
  | c :: rest =>
    if c = '.' ∧ rest.head?.any isNameStart then
      some (.field (String.ofList (rest.takeWhile isNamePart)), rest.dropWhile isNamePart)
    else if isNameStart c then
      some (.name (String.ofList (cs.takeWhile isNamePart)), cs.dropWhile isNamePart)
    else if c.isDigit then
      (readNumber? cs).map fun (n, after) => (.number n, after)
    else if c = '"' then
      match Json.readString ⟨cs, 1, 0⟩ with
      | .ok (s, after) => some (.string s, after.rest)
      | .error _ => none
    else if doubleSymbols.contains (cs.take 2) then
      some (.symbol (String.ofList (cs.take 2)), cs.drop 2)
    else if singleSymbols.contains c then some (.symbol (String.ofList [c]), rest)
    else none

/-- The tokens of a text; `fuel` bounds their number. -/
def tokenize? : Nat → List Char → Option (List Token)
  | 0, _ => none
  | fuel + 1, cs =>
    match cs.dropWhile fun c => c == ' ' || c == '\t' || c == '\n' || c == '\r' with
    | [] => some []
    | '#' :: rest => tokenize? fuel (rest.dropWhile (· ≠ '\n'))
    | c :: rest => do
      let (token, after) ← nextToken? (c :: rest)
      let more ← tokenize? fuel after
      some (token :: more)

/-- What was read, with the tokens that follow. -/
abbrev Parsed := Option (Expr × List Token)

/-- The tokens after a symbol that has to come next. -/
def expect (text : String) : List Token → Option (List Token)
  | .symbol s :: rest => if s = text then some rest else none
  | _ => none

/-- The tokens after a word that has to come next. -/
def expectName (text : String) : List Token → Option (List Token)
  | .name s :: rest => if s = text then some rest else none
  | _ => none

/-- Operators that stand between two terms of one strength, by their symbols. -/
def sums : List (String × Operator) :=
  [("+", .add), ("-", .subtract)]

/-- Comparisons. -/
def comparisons : List (String × Operator) :=
  [("==", .equal), ("!=", .notEqual)]

/-- The operator that comes next, if it is one of the given. -/
def operator? (ops : List (String × Operator)) : List Token → Option (Operator × List Token)
  | .symbol s :: rest => (ops.lookup s).map fun op => (op, rest)
  | _ => none

/-- The filter of a name without arguments. -/
def constant? : String → Option Expr
  | "null" => some (.literal .null)
  | "true" => some (.literal (.bool true))
  | "false" => some (.literal (.bool false))
  | "empty" => some .nothing
  | "length" => some .length
  | "keys" => some .keys
  | "not" => some .not
  | "first" => some (.element 0)
  | "last" => some (.element (-1))
  | _ => none

/-- The filter of a name with one argument. -/
def function? : String → Option (Expr → Expr)
  | "select" => some .select
  | "map" => some .map
  | "first" => some .firstOf
  | _ => none

/-- A question mark. -/
def Token.isMark : Token → Bool
  | .symbol s => s == "?"
  | _ => false

mutual

/-- Reads filters joined by `|`, which may be joined by commas themselves if `commas` is set. -/
def readPipe? : Nat → Bool → List Token → Parsed
  | 0, _, _ => none
  | fuel + 1, commas, ts => do
    let (e, ts) ← if commas then readComma? fuel ts else readAlternative? fuel ts
    match expect "|" ts with
    | none => some (e, ts)
    | some ts =>
      let (f, ts) ← readPipe? fuel commas ts
      some (.pipe e f, ts)

/-- Reads filters joined by commas. -/
def readComma? : Nat → List Token → Parsed
  | 0, _ => none
  | fuel + 1, ts => do
    let (e, ts) ← readAlternative? fuel ts
    match expect "," ts with
    | none => some (e, ts)
    | some ts =>
      let (f, ts) ← readComma? fuel ts
      some (.comma e f, ts)

/-- Reads filters joined by `//`. -/
def readAlternative? : Nat → List Token → Parsed
  | 0, _ => none
  | fuel + 1, ts => do
    let (e, ts) ← readEither? fuel ts
    match expect "//" ts with
    | none => some (e, ts)
    | some ts =>
      let (f, ts) ← readAlternative? fuel ts
      some (.alternative e f, ts)

/-- Reads filters joined by `or`. -/
def readEither? : Nat → List Token → Parsed
  | 0, _ => none
  | fuel + 1, ts => do
    let (e, ts) ← readBoth? fuel ts
    match expectName "or" ts with
    | none => some (e, ts)
    | some ts =>
      let (f, ts) ← readEither? fuel ts
      some (.either e f, ts)

/-- Reads filters joined by `and`. -/
def readBoth? : Nat → List Token → Parsed
  | 0, _ => none
  | fuel + 1, ts => do
    let (e, ts) ← readComparison? fuel none ts
    match expectName "and" ts with
    | none => some (e, ts)
    | some ts =>
      let (f, ts) ← readBoth? fuel ts
      some (.both e f, ts)

/-- Reads comparisons, after an operator and the comparison before it if there are such. -/
def readComparison? : Nat → Option (Operator × Expr) → List Token → Parsed
  | 0, _, _ => none
  | fuel + 1, before, ts => do
    let (sum, ts) ← readSum? fuel none ts
    let e :=
      match before with
      | none => sum
      | some (op, left) => .binary op left sum
    match operator? comparisons ts with
    | none => some (e, ts)
    | some (op, ts) => readComparison? fuel (some (op, e)) ts

/-- Reads a sum, after an operator and the sum before it if there are such. -/
def readSum? : Nat → Option (Operator × Expr) → List Token → Parsed
  | 0, _, _ => none
  | fuel + 1, before, ts => do
    let (term, ts) ← readTerm? fuel ts
    let e :=
      match before with
      | none => term
      | some (op, sum) => .binary op sum term
    match operator? sums ts with
    | none => some (e, ts)
    | some (op, ts) => readSum? fuel (some (op, e)) ts

/-- Reads a term and the path after it. -/
def readTerm? : Nat → List Token → Parsed
  | 0, _ => none
  | fuel + 1, ts =>
    match ts with
    | .symbol "-" :: rest => do
      let (e, rest) ← readTerm? fuel rest
      some (.negative e, rest)
    | _ => do
      let (e, rest) ← readStart? fuel ts
      let e := if rest.head?.any Token.isMark then .attempt e else e
      let (steps, rest) ← readSteps? fuel (rest.dropWhile Token.isMark)
      some (e.along steps, rest)

/-- Reads what a path starts from; one that begins with a name starts from the value itself. -/
def readStart? : Nat → List Token → Parsed
  | 0, _ => none
  | fuel + 1, ts =>
    match ts with
    | .field _ :: _ => some (.identity, ts)
    | .symbol "." :: .string _ :: _ => some (.identity, ts)
    | .symbol "." :: rest => some (.identity, rest)
    | .number n :: rest => some (.literal (.number n), rest)
    | .string s :: rest => some (.literal (.string s), rest)
    | .symbol "(" :: rest => do
      let (e, rest) ← readPipe? fuel true rest
      some (e, ← expect ")" rest)
    | .symbol "[" :: .symbol "]" :: rest => some (.literal (.array []), rest)
    | .symbol "[" :: rest => do
      let (e, rest) ← readPipe? fuel true rest
      some (.collect e, ← expect "]" rest)
    | .symbol "\x7b" :: .symbol "\x7d" :: rest => some (.object [], rest)
    | .symbol "\x7b" :: rest => do
      let (entries, rest) ← readEntries? fuel rest
      some (.object entries, rest)
    | .name "if" :: rest => readCondition? fuel rest
    | .name f :: .symbol "(" :: rest => do
      let build ← function? f
      let (e, rest) ← readPipe? fuel true rest
      some (build e, ← expect ")" rest)
    | .name f :: rest => do some (← constant? f, rest)
    | _ => none

/-- Reads the steps of a path: names after points, and brackets. -/
def readSteps? : Nat → List Token → Option (List Step × List Token)
  | 0, _ => none
  | fuel + 1, ts =>
    match ts with
    | .field name :: rest => readOn? fuel (.member name) rest
    | .symbol "." :: .string name :: rest => readOn? fuel (.member name) rest
    | .symbol "." :: .symbol "[" :: rest => do
      let (step, rest) ← readBracket? fuel rest
      readOn? fuel step rest
    | .symbol "[" :: rest => do
      let (step, rest) ← readBracket? fuel rest
      readOn? fuel step rest
    | _ => some ([], ts)

/-- Reads the marks after a step, which make it lenient, and the steps that follow. -/
def readOn? : Nat → (Bool → Step) → List Token → Option (List Step × List Token)
  | 0, _, _ => none
  | fuel + 1, step, ts => do
    let (steps, rest) ← readSteps? fuel (ts.dropWhile Token.isMark)
    some (step (ts.head?.any Token.isMark) :: steps, rest)

/-- Reads a step in brackets, the opening one already read. -/
def readBracket? : Nat → List Token → Option ((Bool → Step) × List Token)
  | 0, _ => none
  | fuel + 1, ts =>
    match ts with
    | .symbol "]" :: rest => some (.each, rest)
    | .symbol ":" :: rest => do
      let (last, rest) ← readPipe? fuel true rest
      some (.slice none (some last), ← expect "]" rest)
    | _ => do
      let (first, rest) ← readPipe? fuel true ts
      match rest with
      | .symbol ":" :: .symbol "]" :: rest => some (.slice (some first) none, rest)
      | .symbol ":" :: rest =>
        let (last, rest) ← readPipe? fuel true rest
        some (.slice (some first) (some last), ← expect "]" rest)
      | _ => some (.part first, ← expect "]" rest)

/-- Reads the entries of an object up to its closing brace. -/
def readEntries? : Nat → List Token → Option (List (Expr × Expr) × List Token)
  | 0, _ => none
  | fuel + 1, ts => do
    let (entry, ts) ← readEntry? fuel ts
    match ts with
    | .symbol "," :: rest =>
      let (more, rest) ← readEntries? fuel rest
      some (entry :: more, rest)
    | .symbol "\x7d" :: rest => some ([entry], rest)
    | _ => none

/-- Reads one entry of an object; a key alone stands for the member of its name. -/
def readEntry? : Nat → List Token → Option ((Expr × Expr) × List Token)
  | 0, _ => none
  | fuel + 1, ts =>
    match ts with
    | .symbol "(" :: rest => do
      let (key, rest) ← readPipe? fuel true rest
      let rest ← expect ":" (← expect ")" rest)
      let (value, rest) ← readPipe? fuel false rest
      some ((key, value), rest)
    | token :: rest => do
      let name ←
        match token with
        | .name s => some s
        | .string s => some s
        | _ => none
      let key := Expr.literal (.string name)
      match rest with
      | .symbol ":" :: rest =>
        let (value, rest) ← readPipe? fuel false rest
        some ((key, value), rest)
      | _ => some ((key, .path .identity [.part key false]), rest)
    | [] => none

/-- Reads a condition, its first word already read. -/
def readCondition? : Nat → List Token → Parsed
  | 0, _ => none
  | fuel + 1, ts => do
    let (test, ts) ← readPipe? fuel true ts
    let (yes, ts) ← readPipe? fuel true (← expectName "then" ts)
    match ts with
    | .name "end" :: rest => some (.cond test yes .identity, rest)
    | .name "elif" :: rest =>
      let (no, rest) ← readCondition? fuel rest
      some (.cond test yes no, rest)
    | .name "else" :: rest =>
      let (no, rest) ← readPipe? fuel true rest
      some (.cond test yes no, ← expectName "end" rest)
    | _ => none

end

/-- The filter that a text describes. -/
def parse? (text : String) : Option Expr := do
  let cs := text.toList
  let ts ← tokenize? (cs.length + 1) cs
  let (e, rest) ← readPipe? (12 * ts.length + 12) true ts
  if rest.isEmpty then some e else none

end SampleTypes.Query
