import SampleTypes.Naming.Warning
import SampleTypes.Settings.Basic

/-!
# Identifiers

`sanitize` makes an identifier of a key: the convention is applied, an identifier that would be
empty is replaced, one that would start with a digit is marked, and a keyword is escaped.
`memberNames` gives the members of one declaration distinct identifiers: the first of those that
want the same one gets it, the others a number, and no member gets an identifier that another member
wants.  `freshName` is the numbering: the least number from two on whose name is free.
-/

namespace SampleTypes.Naming

open Ident (Convention)
open Target (Language)

/-- What names depend on besides the shape. -/
structure Context where
  language : Language
  convention : Convention
  shareIdentical : Bool

/-- An identifier, and why it was changed if it was. -/
structure Candidate where
  ident : String
  reason : Option Reason
deriving DecidableEq, Repr, Inhabited

/-- The text starts with a number character. -/
def startsNumeric (s : String) : Bool :=
  s.toList.head?.any Text.isNumeric

/--
The identifier for a key.  `fallback` takes the place of a key without word characters.  Of several
reasons the last one that applies is kept: characters, emptiness, digit, keyword.
-/
def Context.sanitize (cx : Context) (key fallback : String) : Candidate :=
  let applied := cx.convention.apply key
  let word := if applied.isEmpty then cx.convention.apply fallback else applied
  let marked := if startsNumeric word then cx.convention.digitMark ++ word else word
  match cx.language.escapeKeyword marked with
  | some escaped => ⟨escaped, some .keyword⟩
  | none =>
    { ident := marked
      reason :=
        if startsNumeric word then some .leadingDigit
        else if applied.isEmpty then some .empty
        else if !Ident.isPlain key then some .illegalCharacters
        else none }

/--
The first free name among `name 2`, `name 3`, ….  If the names differ, one of the first
`taken.length + 1` is free.
-/
def freshName (taken : List String) (name : Nat → String) : String :=
  let numbers := List.range' 2 (taken.length + 1)
  name ((numbers.find? fun n => !taken.contains (name n)).getD (taken.length + 2))

/-- The identifiers of the members handed out so far, and those that no number may lead to. -/
structure Claims where
  /-- Every identifier that a member wants, the owner's name where it is reserved. -/
  taken : List String
  /-- Identifiers handed out as they were wanted, and the owner's name where it is reserved. -/
  claimed : List String

/--
Names the members one after the other.  `wanted` holds the wanted identifiers of all members, and
`owner` the name that no member may have.
-/
def assignNames (convention : Convention) (wanted : List String) (owner : Option String) :
    Claims → List Candidate → List Candidate
  | _, [] => []
  | claims, c :: cs =>
    let collides := 1 < wanted.count c.ident || owner == some c.ident
    let reason := if collides then some .collision else c.reason
    if claims.claimed.contains c.ident then
      let ident := freshName claims.taken (convention.withCounter c.ident)
      ⟨ident, reason⟩ :: assignNames convention wanted owner
        { claims with taken := ident :: claims.taken } cs
    else
      ⟨c.ident, reason⟩ :: assignNames convention wanted owner
        { claims with claimed := c.ident :: claims.claimed } cs

/-- The identifiers of the members with the given keys, in a declaration of the given name. -/
def Context.memberNames (cx : Context) (name : String) (keys : List String) : List Candidate :=
  let candidates := keys.map fun key => cx.sanitize key "field"
  let wanted := candidates.map (·.ident)
  let owner := if cx.language.memberMayShareTypeName then none else some name
  assignNames cx.convention wanted owner ⟨wanted ++ owner.toList, owner.toList⟩ candidates

end SampleTypes.Naming
