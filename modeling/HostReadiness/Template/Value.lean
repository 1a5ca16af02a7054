import HostReadiness.Numeral.Whole
import HostReadiness.Template.Member.Listing
import HostReadiness.Text.Quoted

/-! What a field of a template can stand for, and how it is shown. -/

namespace HostReadiness.Template

inductive Value where
  | text (content : List Char)
  | number (n : Nat)
  | nothing
  | tuple (items : List Value)
  | kind (k : Kind)
  | listing (k : Kind)
  | filled (k : Kind) (argument : Value)
  | method (member : Member) (receiver : Value)
  | shared (member : Member) (owner : Kind)
  | operation (member : Member) (owner : Kind) (receiver : Value)
  | entry (member : Member) (owner : Kind)

def Form.entryKind : Form → Kind
  | .creator => .method
  | .constant => .text
  | .method => .methodEntry
  | .kindMethod => .kindMethodEntry
  | .shared => .sharedEntry
  | .operation => .operationEntry
  | .stored => .storedEntry
  | .computed => .computedEntry

def Value.ofText? : Option String → Value
  | some content => .text content.toList
  | none => .nothing

def Member.listed (member : Member) (owner : Kind) : Value :=
  match member.form with
  | .creator => .method member (.kind owner)
  | .constant => .ofText? member.description
  | _ => .entry member owner

namespace Value

def kindOf : Value → Kind
  | .text _ => .text
  | .number _ => .number
  | .nothing => .nothing
  | .tuple _ => .tuple
  | .kind _ => .kinds
  | .listing _ => .listing
  | .filled .. => .filled
  | .method .. => .method
  | .shared .. => .method
  | .operation .. => .operation
  | .entry member _ => member.form.entryKind

/-- Where a value lies. That is different in every run, so one place stands for all of them. -/
def place : String := "0x7f0000000000"

def methodText (name : String) (receiver : Kind) : String :=
  "<built-in method " ++ name ++ " of " ++ receiver.fullName ++ " object at " ++ place ++ ">"

def entryText (member : Member) (owner : Kind) : String :=
  match member.form with
  | .creator => methodText member.name .kinds
  | .constant => (member.description.map Text.quoted).getD "None"
  | .shared => "<staticmethod(" ++ methodText member.name .kinds ++ ")>"
  | .operation => described "slot wrapper"
  | .method => described "method"
  | .kindMethod => described "method"
  | .stored => described "member"
  | .computed => described "attribute"
where
  described (what : String) : String :=
    "<" ++ what ++ " '" ++ member.name ++ "' of '" ++ owner.fullName ++ "' objects>"

def listingText (k : Kind) : String :=
  "\x7b" ++ ", ".intercalate (k.members.map fun member =>
    Text.quoted member.name ++ ": " ++ entryText member k) ++ "\x7d"

mutual

/-- A value in full, with texts in quotes. With `ascii`, every character beyond ASCII is escaped. -/
def shown (ascii : Bool) : Value → String
  | .text content => String.ofList (Text.quote ascii content)
  | .number n => Numeral.decimal n
  | .nothing => "None"
  | .tuple [item] => "(" ++ shown ascii item ++ ",)"
  | .tuple items => "(" ++ ", ".intercalate (shownItems ascii items) ++ ")"
  | .kind k => "<class '" ++ k.fullName ++ "'>"
  | .listing k => "mappingproxy(" ++ listingText k ++ ")"
  | .filled k argument => k.name ++ "[" ++ shown ascii argument ++ "]"
  | .method member receiver => methodText member.name receiver.kindOf
  | .shared member _ => methodText member.name .kinds
  | .operation member _ receiver =>
    "<method-wrapper '" ++ member.name ++ "' of " ++ receiver.kindOf.fullName ++ " object at " ++
      place ++ ">"
  | .entry member owner => entryText member owner

def shownItems (ascii : Bool) : List Value → List String
  | [] => []
  | item :: rest => shown ascii item :: shownItems ascii rest

end

def plain : Value → List Char
  | .text content => content
  | .listing k => (listingText k).toList
  | value => (value.shown false).toList

end Value

end HostReadiness.Template
