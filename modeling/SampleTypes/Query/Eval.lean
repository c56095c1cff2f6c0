import SampleTypes.Filter.Engine
import SampleTypes.Json.Printer
import SampleTypes.Query.Reader

/-!
# Applying filters

The values that a filter makes of a value, in their order.  A failure stands in the list where it
arose, so that a part of a filter can drop it; what comes after it in the list is there as well.
-/

namespace SampleTypes.Query

open Json (Number Value)

/-- Why a filter could not be applied. -/
inductive Failure where
  | noParts (value : Value)
  | noLength (value : Value)
  | noKeys (value : Value)
  | notCombinable (left right : Value)
  | keyNotString (key : Value)

/-- The word for the type of a value. -/
def typeName : Value → String
  | .null => "null"
  | .bool _ => "boolean"
  | .number _ => "number"
  | .string _ => "string"
  | .array _ => "array"
  | .object _ => "object"

/-- The wording of a failure. -/
def Failure.message : Failure → String
  | .noParts value => "cannot index " ++ typeName value
  | .noLength value => typeName value ++ " has no length"
  | .noKeys value => typeName value ++ " has no keys"
  | .notCombinable left right =>
    "cannot combine " ++ typeName left ++ " and " ++ typeName right
  | .keyNotString key => "key is a " ++ typeName key

/-- Results and failures in their order. -/
abbrev Results (α : Type) := List (Except Failure α)

/-- Applies a function to each result; failures stay. -/
def Results.bind {α β : Type} (rs : Results α) (f : α → Results β) : Results β :=
  rs.flatMap fun r =>
    match r with
    | .ok v => f v
    | .error e => [.error e]

/-- Applies a function to each result that is not a failure. -/
def Results.map {α β : Type} (rs : Results α) (f : α → β) : Results β :=
  List.map (Except.map f) rs

/--
Combines each result on the left with each on the right.  A failure takes part like a value, so that
there are no results at all if there are none on one side.
-/
def Results.pairs {α β γ : Type} (ls : Results α) (rs : Results β)
    (f : α → β → Except Failure γ) : Results γ :=
  ls.flatMap fun l => List.map (fun r => do f (← l) (← r)) rs

/-- Neither false nor null. -/
def isTruthy : Value → Bool
  | .null => false
  | .bool b => b
  | _ => true

/-- A number as a float. -/
def Number.toFloat : Number → Float
  | .integer n => Float.ofInt n
  | .float x => x

/-- The integer fits 64 bits with a sign. -/
def isWord (n : Int) : Bool :=
  -0x8000000000000000 ≤ n && n < 0x8000000000000000

/-- Combines numbers: exactly where integers fit their words, or else as floats. -/
def arithmetic (exact : Int → Int → Int) (rounded : Float → Float → Float) :
    Number → Number → Number
  | .integer a, .integer b =>
    if isWord a && isWord b && isWord (exact a b) then .integer (exact a b)
    else .float (rounded (Float.ofInt a) (Float.ofInt b))
  | a, b => .float (rounded (Number.toFloat a) (Number.toFloat b))

/-- Two numbers are equal: as integers where both fit their words, or else as floats. -/
def numbersEqual (x y : Number) : Bool :=
  match x, y with
  | .integer a, .integer b =>
    if isWord a && isWord b then a == b else Float.ofInt a == Float.ofInt b
  | _, _ => Number.toFloat x == Number.toFloat y

mutual

/-- Two values are equal; the order of members does not count. -/
def valuesEqual : Value → Value → Bool
  | .null, .null => true
  | .bool a, .bool b => a == b
  | .number a, .number b => numbersEqual a b
  | .string a, .string b => a == b
  | .array as, .array bs => elementsEqual as bs
  | .object as, .object bs => as.length == bs.length && membersEqual as bs
  | _, _ => false

/-- Two lists of values are equal. -/
def elementsEqual : List Value → List Value → Bool
  | [], [] => true
  | a :: as, b :: bs => valuesEqual a b && elementsEqual as bs
  | _, _ => false

/-- Each of the members is among the others. -/
def membersEqual : List (String × Value) → List (String × Value) → Bool
  | [], _ => true
  | (key, a) :: as, bs =>
    (match Json.member? key bs with
      | some b => valuesEqual a b
      | none => false) && membersEqual as bs

end

/-- Applies an operator. -/
def operate : Operator → Value → Value → Except Failure Value
  | .equal, a, b => .ok (.bool (valuesEqual a b))
  | .notEqual, a, b => .ok (.bool (!valuesEqual a b))
  | .add, .null, b => .ok b
  | .add, a, .null => .ok a
  | .add, .number a, .number b => .ok (.number (arithmetic (· + ·) (· + ·) a b))
  | .add, .string a, .string b => .ok (.string (a ++ b))
  | .add, .array a, .array b => .ok (.array (a ++ b))
  | .add, .object a, .object b =>
    .ok (.object (b.foldl (fun members (key, v) => Json.assign key v members) a))
  | .subtract, .number a, .number b => .ok (.number (arithmetic (· - ·) (· - ·) a b))
  | .subtract, .array a, .array b => .ok (.array (a.filter fun v => !b.any (valuesEqual v)))
  | _, a, b => .error (.notCombinable a b)

/-- A place counted from the start, or from the end if it is negative. -/
def placeIn (size : Nat) (n : Int) : Int :=
  if n < 0 then n + size else n

/-- The part of a value under a key; null has none. -/
def partOf : Value → Value → Except Failure Value
  | .object members, .string key => .ok ((Json.member? key members).getD .null)
  | .array elements, .number (.integer n) =>
    if isWord n then
      let place := placeIn elements.length n
      .ok (if place < 0 then .null else (elements[place.toNat]?).getD .null)
    else .error (.noParts (.array elements))
  | value, _ => .error (.noParts value)

/-- One end of a slice, as a number of elements from the start. -/
def sliceEnd (size : Nat) (whole : Nat) : Option Value → Option Nat
  | none => some whole
  | some (.number (.integer n)) => if isWord n then some (min (placeIn size n).toNat size) else none
  | some _ => none

/-- The elements between two places. -/
def sliceOf {α : Type} (xs : List α) (first last : Option Value) : Option (List α) := do
  let a ← sliceEnd xs.length 0 first
  let b ← sliceEnd xs.length xs.length last
  some ((xs.take b).drop a)

/-- The part of an array or string between two places. -/
def slicePart (value : Value) (first last : Option Value) : Except Failure Value :=
  match value with
  | .array elements =>
    match sliceOf elements first last with
    | some part => .ok (.array part)
    | none => .error (.noParts value)
  | .string s =>
    match sliceOf s.toList first last with
    | some part => .ok (.string (String.ofList part))
    | none => .error (.noParts value)
  | value => .error (.noParts value)

/-- All parts of a value. -/
def partsOf : Value → Results Value
  | .array elements => List.map .ok elements
  | .object members => List.map (fun m => .ok m.2) members
  | value => [.error (.noParts value)]

/-- Where a step leads, its keys being values. -/
inductive Place where
  | part (key : Value)
  | slice (first last : Option Value)
  | each

/-- What a value has at a place. -/
def Place.select : Place → Value → Results Value
  | .part key, v => [partOf v key]
  | .slice first last, v => [slicePart v first last]
  | .each, v => partsOf v

/-- Places one within the other, and whether a failure to find one is dropped. -/
abbrev Route := List (Place × Bool)

/-- What is at the end of a route. -/
def Route.follow : Route → Value → Results Value
  | [], v => [.ok v]
  | (place, lenient) :: route, v =>
    let found := (place.select v).filter fun r => !lenient || r.toBool
    Results.bind found (Route.follow route)

/-- The least integer of 64 bits with a sign. -/
def leastWord : Int :=
  -0x8000000000000000

/--
The absolute value of a number: an integer where the number fits its word.  The least word stays as
it is, since its opposite is not a word.
-/
def magnitude : Number → Number
  | .integer n =>
    if n = leastWord then .integer n
    else if isWord n then .integer n.natAbs
    else .float (Float.ofInt n).abs
  | .float x => .float x.abs

/-- The length of a value; of a number its absolute value. -/
def lengthOf : Value → Except Failure Value
  | .null => .ok (.number (.integer 0))
  | .number n => .ok (.number (magnitude n))
  | .string s => .ok (.number (.integer s.length))
  | .array elements => .ok (.number (.integer elements.length))
  | .object members => .ok (.number (.integer members.length))
  | .bool b => .error (.noLength (.bool b))

/-- The keys of a value in their order; those of an array are numbers. -/
def keysOf : Value → Except Failure Value
  | .array elements =>
    .ok (.array ((List.range elements.length).map fun i : Nat => .number (.integer i)))
  | .object members =>
    .ok (.array (((members.map (·.1)).mergeSort fun a b => !(b < a)).map .string))
  | value => .error (.noKeys value)

/-- An object with one member. -/
def singleton : Value → Value → Except Failure Value
  | .string key, value => .ok (.object [(key, value)])
  | key, _ => .error (.keyNotString key)

/-- An array of all values, or the first failure. -/
def collected (rs : Results Value) : Except Failure Value :=
  (rs.mapM id).map .array

mutual

/-- Applies a filter to a value. -/
def eval : Expr → Value → Results Value
  | .identity, v => [.ok v]
  | .literal value, _ => [.ok value]
  | .nothing, _ => []
  | .path start steps, v =>
    Results.bind (eval start v) fun w => Results.bind (routes steps v) fun route => route.follow w
  | .attempt e, v => (eval e v).filter fun r => r.toBool
  | .pipe first second, v => Results.bind (eval first v) fun w => eval second w
  | .comma left right, v => eval left v ++ eval right v
  | .alternative left right, v =>
    let kept := (eval left v).filter fun r => match r with | .ok w => isTruthy w | .error _ => true
    if kept.isEmpty then eval right v else kept
  | .both left right, v =>
    Results.bind (eval left v) fun a =>
      if isTruthy a then Results.bind (eval right v) fun b => [.ok (.bool (isTruthy b))]
      else [.ok (.bool false)]
  | .either left right, v =>
    Results.bind (eval left v) fun a =>
      if isTruthy a then [.ok (.bool true)]
      else Results.bind (eval right v) fun b => [.ok (.bool (isTruthy b))]
  | .binary op left right, v => Results.pairs (eval left v) (eval right v) (operate op)
  | .collect e, v => [collected (eval e v)]
  | .object entries, v => evalEntries entries v [.ok (.object [])]
  | .cond test yes no, v =>
    Results.bind (eval test v) fun t => if isTruthy t then eval yes v else eval no v
  | .firstOf e, v => (eval e v).take 1
  | .length, v => [lengthOf v]
  | .keys, v => [keysOf v]
  | .not, v => [.ok (.bool (!isTruthy v))]

/-- Adds entries to objects under construction. -/
def evalEntries : List (Expr × Expr) → Value → Results Value → Results Value
  | [], _, objects => objects
  | (key, value) :: entries, v, objects =>
    let singles := Results.pairs (eval key v) (eval value v) singleton
    evalEntries entries v (Results.pairs objects singles (operate .add))

/-- The routes along steps: one for each choice of keys, the keys being made of `v`. -/
def routes : List Step → Value → Results Route
  | [], _ => [.ok []]
  | step :: steps, v =>
    Results.bind (places step v) fun place => Results.map (routes steps v) (place :: ·)

/-- The places that a step leads to. -/
def places : Step → Value → Results (Place × Bool)
  | .part key lenient, v => Results.map (eval key v) fun k => (.part k, lenient)
  | .slice first last lenient, v =>
    Results.bind (evalEnd first v) fun a =>
      Results.map (evalEnd last v) fun b => (.slice a b, lenient)
  | .each lenient, _ => [.ok (.each, lenient)]

/-- The values for an end of a slice. -/
def evalEnd : Option Expr → Value → Results (Option Value)
  | none, _ => [.ok none]
  | some e, v => Results.map (eval e v) some

end

/-- A number; one that is not finite becomes null. -/
def finite : Number → Value
  | .integer n => .number (.integer n)
  | .float x => if x.isFinite then .number (.float x) else .null

mutual

/-- A value as it could be written down: a number that is not finite becomes null. -/
def writable : Value → Value
  | .number n => finite n
  | .array elements => .array (writableElements elements)
  | .object members => .object (writableMembers members)
  | .null => .null
  | .bool b => .bool b
  | .string s => .string s

/-- Elements as they could be written down. -/
def writableElements : List Value → List Value
  | [] => []
  | v :: vs => writable v :: writableElements vs

/-- Members as they could be written down. -/
def writableMembers : List (String × Value) → List (String × Value)
  | [] => []
  | (key, v) :: members => (key, writable v) :: writableMembers members

end

/-- The engine for these filters. -/
def engine : Filter.Engine where
  compile text :=
    match parse? text with
    | none => .error (.unreadable ["not a filter"])
    | some e => .ok fun document =>
      List.map (fun r => (r.map fun v => Json.print 0 (writable v)).mapError Failure.message)
        (eval e document)

end SampleTypes.Query
