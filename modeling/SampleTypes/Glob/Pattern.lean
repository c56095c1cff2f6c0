import SampleTypes.Text.Lines

/-!
# Wildcard patterns

A pattern is written like a path.  In a part, `?` stands for one character, `*` for any number of
them, and brackets for one character of a set, or outside the set when it starts with `!`.  A part
`**` stands for any number of directories.  Braces have no meaning.
-/

namespace SampleTypes.Glob

/-- One member of a set of characters: a character, or all between two. -/
structure CharSpan where
  first : Char
  last : Char
deriving DecidableEq, Repr

/-- One element of a part of a pattern. -/
inductive Token where
  | char (c : Char)
  | anyChar
  | anySequence
  | anyDirectories
  | within (set : List CharSpan)
  | except (set : List CharSpan)
deriving DecidableEq, Repr

/-- What can be wrong with a pattern. -/
inductive PatternFault where
  | wildcards
  | recursiveWildcards
  | invalidRange
deriving DecidableEq, Repr

/-- A fault, and the number of the character where it was noticed. -/
structure PatternError where
  index : Nat
  fault : PatternFault
deriving DecidableEq, Repr

/-- The wording of a pattern error. -/
def PatternError.message (e : PatternError) : String :=
  "Pattern syntax error near position " ++ toString e.index ++ ": " ++
    match e.fault with
    | .wildcards => "wildcards are either regular `*` or recursive `**`"
    | .recursiveWildcards => "recursive wildcards must form a single path component"
    | .invalidRange => "invalid range pattern"

/-- The set that the characters between brackets describe. -/
def charSpans : List Char → List CharSpan
  | a :: '-' :: b :: rest => ⟨a, b⟩ :: charSpans rest
  | a :: rest => ⟨a, a⟩ :: charSpans rest
  | [] => []

/--
The set after an opening bracket, and what follows its closing bracket.  The set has at least one
character, which may be a closing bracket itself.
-/
def splitSet? : List Char → Option (List Char × List Char)
  | [] => none
  | first :: rest =>
    match rest.dropWhile (· ≠ ']') with
    | [] => none
    | _ :: after => some (first :: rest.takeWhile (· ≠ ']'), after)

/-- The number of stars at the start, and what follows them. -/
def splitStars : List Char → Nat × List Char
  | '*' :: rest => ((splitStars rest).1 + 1, (splitStars rest).2)
  | rest => (0, rest)

theorem length_splitStars (cs : List Char) : (splitStars cs).2.length ≤ cs.length := by
  fun_induction splitStars cs with
  | case1 rest ih =>
    simp only [List.length_cons]
    omega
  | case2 rest _ => exact Nat.le_refl _

theorem length_splitSet? {cs : List Char} {set after : List Char}
    (h : splitSet? cs = some (set, after)) : after.length < cs.length := by
  unfold splitSet? at h
  split at h
  · simp at h
  · rename_i first rest
    have hs := (List.dropWhile_suffix (fun c => decide (c ≠ ']')) (l := rest)).length_le
    split at h
    · simp at h
    · rename_i hd
      rw [hd] at hs
      simp only [Option.some.injEq, Prod.mk.injEq] at h
      obtain ⟨-, rfl⟩ := h
      simp only [List.length_cons] at hs ⊢
      omega

/-- The characters of a set after its opening bracket, without the `!` of an excluding set. -/
def setStart (rest : List Char) : Bool × List Char :=
  match rest with
  | '!' :: more => (true, more)
  | _ => (false, rest)

theorem length_setStart (rest : List Char) : (setStart rest).2.length ≤ rest.length := by
  unfold setStart
  split <;> simp

/--
The tokens of a pattern or of a part of one.  `before` is the character before, and `index` the
number of characters read.
-/
def tokensFrom (before : Option Char) (index : Nat) :
    List Char → Except PatternError (List Token)
  | [] => .ok []
  | c :: rest =>
    if c = '?' then do .ok (.anyChar :: (← tokensFrom (some c) (index + 1) rest))
    else if c = '*' then
      have := length_splitStars rest
      let stars := (splitStars rest).1 + 1
      if 2 < stars then .error ⟨index + 2, .wildcards⟩
      else if stars = 1 then do .ok (.anySequence :: (← tokensFrom (some c) (index + 1) rest))
      else if before.any (· ≠ '/') then .error ⟨index - 1, .recursiveWildcards⟩
      else
        match h : (splitStars rest).2 with
        | [] => .ok [.anyDirectories]
        | d :: after =>
          if d ≠ '/' then .error ⟨index + 2, .recursiveWildcards⟩
          else do
            have : after.length < rest.length := by
              rw [h, List.length_cons] at this
              omega
            .ok (.anyDirectories :: (← tokensFrom (some '/') (index + 3) after))
    else if c = '[' then
      match h : splitSet? (setStart rest).2 with
      | none => .error ⟨index, .invalidRange⟩
      | some (set, after) =>
        have : after.length < rest.length :=
          Nat.lt_of_lt_of_le (length_splitSet? h) (length_setStart rest)
        let spans := charSpans set
        let token := if (setStart rest).1 then .except spans else .within spans
        do .ok (token :: (← tokensFrom (some ']') (index + 1 + rest.length - after.length) after))
    else do .ok (.char c :: (← tokensFrom (some c) (index + 1) rest))
termination_by cs => cs.length

/-- The tokens of a text. -/
def tokens (text : String) : Except PatternError (List Token) :=
  tokensFrom none 0 text.toList

/-- The set has the character. -/
def inSpans (set : List CharSpan) (c : Char) : Bool :=
  set.any fun span => span.first ≤ c && c ≤ span.last

/-- The ends of a list: the list itself, without its first element, and so on. -/
def tails : List Char → List (List Char)
  | [] => [[]]
  | c :: cs => (c :: cs) :: tails cs

/-- The tokens stand for the name. -/
def matchesName : List Token → List Char → Bool
  | [], name => name.isEmpty
  | .anySequence :: more, name => (tails name).any (matchesName more)
  | .anyDirectories :: more, name => (tails name).any (matchesName more)
  | _ :: _, [] => false
  | .char c :: more, d :: name => c == d && matchesName more name
  | .anyChar :: more, _ :: name => matchesName more name
  | .within set :: more, d :: name => inSpans set d && matchesName more name
  | .except set :: more, d :: name => !inSpans set d && matchesName more name

/-- The text that tokens without wildcards stand for. -/
def literal? (ts : List Token) : Option String :=
  (ts.mapM fun (token : Token) =>
    match token with
    | .char c => some c
    | _ => none).map String.ofList

/-- A pattern as the tokens of its parts. -/
structure Pattern where
  parts : List (List Token)
  /-- A slash at the end: only directories match. -/
  directoriesOnly : Bool
  /-- A slash at the start: the parts lead from the root of all files. -/
  absolute : Bool

/-- Reads a pattern.  The whole is checked before its parts are. -/
def Pattern.parse (text : String) : Except PatternError Pattern := do
  let _ ← tokens text
  let cs := text.toList
  let absolute := cs.head? == some '/'
  let relative := if absolute then cs.dropWhile (· = '/') else cs
  let pieces := Text.splitAt '/' relative
  let pieces := if pieces.getLast? = some [] then pieces.dropLast else pieces
  let parts ← pieces.mapM fun piece => tokensFrom none 0 piece
  .ok ⟨parts, cs.getLast? == some '/', absolute⟩

end SampleTypes.Glob
