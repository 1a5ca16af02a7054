import HostReadiness.Template.Index
import HostReadiness.Template.Property

/-! What the accessors of a field select: a member after a point, an item in brackets. -/

namespace HostReadiness.Template

inductive Key where
  | number (index : Nat)
  | text (content : List Char)
deriving DecidableEq, Repr

def Key.value : Key → Value
  | .number index => .number index
  | .text content => .text content

namespace Value

/-- Why a value does not hold a property that its kind lists. Kinds list two that none of them holds,
and one of these is reported by its bare name. -/
def missing (value : Value) (name : String) : Fault :=
  if name = "__abstractmethods__" then .unsetMember name.toList
  else .noMemberOfKind value.qualifier name.toList

def bind (value : Value) (member : Member) (owner : Kind) : Except Fault Value :=
  match member.form with
  | .creator => .ok (.method member (.kind owner))
  | .constant => .ok (.ofText? member.description)
  | .method => .ok (.method member value)
  | .kindMethod => .ok (.method member (.kind value.kindOf))
  | .shared => .ok (.shared member owner)
  | .operation => .ok (.operation member owner value)
  | .stored | .computed =>
    match value.property? member.name with
    | some property => .ok property
    | none => .error (value.missing member.name)

def memberByKind (value : Value) (name : List Char) : Except Fault Value :=
  match value.kindOf.find? (String.ofList name) with
  | some (member, owner) => value.bind member owner
  | none => .error (.noMember value.kindOf name)

def memberOfList (k : Kind) (member : Member) (owner : Kind) : Value :=
  match member.form with
  | .kindMethod => .method member (.kind k)
  | .shared => .shared member owner
  | _ => member.listed owner

/-- A member of a kind. The properties that every kind has come first, then what the kind lists for its
values, and last the methods that every kind has. -/
def memberOfKind (k : Kind) (name : List Char) : Except Fault Value :=
  let general := Kind.kinds.find? (String.ofList name)
  match general.filter (fun found => found.1.form.isProperty), k.find? (String.ofList name),
    general with
  | some (member, owner), _, _ => Value.bind (.kind k) member owner
  | none, some (member, owner), _ => .ok (memberOfList k member owner)
  | none, none, some (member, owner) => Value.bind (.kind k) member owner
  | none, none, none => .error (.noMemberOfKind k name)

/-- The members that a kind with a value in brackets has itself; all others are those of the kind. -/
def filledOwn : List String :=
  ["__class__", "__origin__", "__args__", "__parameters__", "__typing_unpacked_tuple_args__",
    "__mro_entries__", "__reduce__", "__reduce_ex__", "__copy__", "__deepcopy__"]

def member (value : Value) (name : List Char) : Except Fault Value :=
  match value with
  | .kind k => memberOfKind k name
  | .filled k _ =>
    if filledOwn.contains (String.ofList name) then value.memberByKind name
    else memberOfKind k name
  | _ => value.memberByKind name

def item (value : Value) (key : Key) : Except Fault Value :=
  match value, key with
  | .text content, .number index =>
    match content[index]? with
    | some c => .ok (.text [c])
    | none => .error (.noSuchItem .text)
  | .tuple items, .number index =>
    match items[index]? with
    | some found => .ok found
    | none => .error (.noSuchItem .tuple)
  | .text _, .text _ => .error (.keyNotNumber .text)
  | .tuple _, .text _ => .error (.keyNotNumber .tuple)
  | .listing k, key =>
    match key with
    | .number index => .error (.noEntry (Value.shown false (.number index)))
    | .text name =>
      match k.own? (String.ofList name) with
      | some found => .ok (found.listed k)
      | none => .error (.noEntry (Value.shown false (.text name)))
  | .kind k, key =>
    if k.isFillable then .ok (.filled k key.value) else .error (.noItemsOfKind k)
  | .filled _ _, _ => .error (.alreadyFilled (value.shown false))
  | _, _ => .error (.noItems value.kindOf)

end Value

def readKey (text : List Char) : Except Fault Key := do
  let index ← readIndex text
  if text.isEmpty then throw .emptyAccessor
  return match index with
    | some index => .number index
    | none => .text text

def inName (c : Char) : Bool :=
  c ≠ '.' && c ≠ '['

def select (value : Value) (accessors : List Char) : Except Fault Value :=
  match accessors with
  | [] => .ok value
  | '.' :: rest =>
    let name := rest.takeWhile inName
    if name.isEmpty then .error .emptyAccessor
    else do select (← value.member name) (rest.dropWhile inName)
  | '[' :: rest =>
    match _tail : rest.dropWhile (· ≠ ']') with
    | [] => .error .unclosedBracket
    | _ :: more => do select (← value.item (← readKey (rest.takeWhile (· ≠ ']')))) more
  | _ :: _ => .error .textAfterBracket
termination_by accessors.length
decreasing_by
  · have shorter := (List.dropWhile_sublist (l := rest) inName).length_le
    simp only [List.length_cons]
    omega
  · have shorter := (List.dropWhile_sublist (l := rest) (· ≠ ']')).length_le
    rw [_tail] at shorter
    simp only [List.length_cons] at shorter ⊢
    omega

def splitName (name : List Char) : List Char × List Char :=
  (name.takeWhile inName, name.dropWhile inName)

/-- The value that a field's name stands for, when `known` names the text `content`. A number, or no
name at all, asks for a position, and there is none. -/
def resolve (known content name : List Char) : Except Fault Value := do
  let (first, accessors) := splitName name
  match ← readIndex first with
  | some index => throw (.noPosition index)
  | none =>
    if first.isEmpty then throw (.noPosition 0)
    else if first = known then select (.text content) accessors
    else throw (.unknownName first)

def convert (mark : Option Char) (value : Value) : Except Fault Value :=
  match mark with
  | none => .ok value
  | some '\x00' => .ok value
  | some 's' => .ok (.text value.plain)
  | some 'r' => .ok (.text (value.shown false).toList)
  | some 'a' => .ok (.text (value.shown true).toList)
  | some mark => .error (.unknownConversion mark)

end HostReadiness.Template
