import HostReadiness.Template.Member.OfHolder
import HostReadiness.Template.Member.OfKind
import HostReadiness.Template.Member.OfMember
import HostReadiness.Template.Member.OfNumber
import HostReadiness.Template.Member.OfText

/-! The members that each kind lists, and where a member is found: a kind's own members hide those of
the kind that it builds on. -/

namespace HostReadiness.Template.Kind

def members : Kind → List Member
  | .text => textMembers
  | .number => numberMembers
  | .nothing => nothingMembers
  | .tuple => tupleMembers
  | .kinds => kindMembers
  | .any => anyMembers
  | .listing => listingMembers
  | .filled => filledMembers
  | .method => methodMembers
  | .operation => operationMembers
  | .methodEntry => methodEntryMembers
  | .kindMethodEntry => kindMethodEntryMembers
  | .sharedEntry => sharedEntryMembers
  | .operationEntry => operationEntryMembers
  | .storedEntry => storedEntryMembers
  | .computedEntry => computedEntryMembers

def own? (kind : Kind) (name : String) : Option Member :=
  kind.members.find? fun member => member.name = name

def find? (kind : Kind) (name : String) : Option (Member × Kind) :=
  kind.chain.findSome? fun owner => (owner.own? name).map (·, owner)

def isFillable (kind : Kind) : Bool :=
  kind = .kinds || (kind.own? "__class_getitem__").isSome

end HostReadiness.Template.Kind
