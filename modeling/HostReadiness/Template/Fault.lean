import HostReadiness.Numeral.Whole
import HostReadiness.Template.Kind
import HostReadiness.Text.Quoted

/-! Why a template cannot be expanded. -/

namespace HostReadiness.Template

inductive FaultKind where
  | value
  | key
  | index
  | type
  | attribute
  | overflow
  | memory
deriving DecidableEq, Repr

inductive Fault where
  | loneOpening
  | loneClosing
  | openingInName
  | unclosedField
  | noConversion
  | textAfterConversion
  | unclosedSpec
  | nestedTooDeep
  | numberTooLong
  | noPosition (index : Nat)
  | unknownName (name : List Char)
  | emptyAccessor
  | unclosedBracket
  | textAfterBracket
  | noMember (holder : Kind) (name : List Char)
  | noMemberOfKind (kind : Kind) (name : List Char)
  | unsetMember (name : List Char)
  | keyNotNumber (holder : Kind)
  | noSuchItem (holder : Kind)
  | noEntry (key : String)
  | noItems (holder : Kind)
  | noItemsOfKind (kind : Kind)
  | alreadyFilled (kind : String)
  | unknownConversion (mark : Char)
  | noLayout (holder : Kind)
  | unreadableSpec (holder : Kind) (spec : List Char)
  | noPrecision
  | twoSeparators
  | separatorForType (separator type : Char)
  | unknownType (holder : Kind) (type : Char)
  | signOnText
  | spaceOnText
  | negativeZeroOnText
  | alternateOnText
  | signAlignment
  | precisionOnNumber
  | precisionTooLarge
  | negativeZeroOnNumber
  | signOnCharacter
  | alternateOnCharacter
  | noCharacter
  | tooLong
deriving DecidableEq, Repr

def visibleOrNumber (top : Nat) (c : Char) : String :=
  if 32 < c.toNat ∧ c.toNat < top then String.ofList [c]
  else "\\x" ++ String.ofList (Numeral.hex 1 c.toNat)

def Fault.kind : Fault → FaultKind
  | .noPosition _ => .index
  | .noSuchItem _ => .index
  | .unknownName _ => .key
  | .noEntry _ => .key
  | .keyNotNumber _ => .type
  | .noItems _ => .type
  | .noItemsOfKind _ => .type
  | .alreadyFilled _ => .type
  | .noLayout _ => .type
  | .noMember .. => .attribute
  | .noMemberOfKind .. => .attribute
  | .unsetMember _ => .attribute
  | .noCharacter => .overflow
  | .tooLong => .memory
  | _ => .value

def Fault.message : Fault → String
  | .loneOpening => "Single '\x7b' encountered in format string"
  | .loneClosing => "Single '\x7d' encountered in format string"
  | .openingInName => "unexpected '\x7b' in field name"
  | .unclosedField => "expected '\x7d' before end of string"
  | .noConversion => "end of string while looking for conversion specifier"
  | .textAfterConversion => "expected ':' after conversion specifier"
  | .unclosedSpec => "unmatched '\x7b' in format spec"
  | .nestedTooDeep => "Max string recursion exceeded"
  | .numberTooLong => "Too many decimal digits in format string"
  | .noPosition index =>
    "Replacement index " ++ Numeral.decimal index ++ " out of range for positional args tuple"
  | .unknownName name => Text.quoted (String.ofList name)
  | .emptyAccessor => "Empty attribute in format string"
  | .unclosedBracket => "Missing ']' in format string"
  | .textAfterBracket => "Only '.' or '[' may follow ']' in format field specifier"
  | .noMember holder name =>
    "'" ++ holder.fullName ++ "' object has no attribute '" ++ String.ofList name ++ "'"
  | .noMemberOfKind kind name =>
    "type object '" ++ kind.fullName ++ "' has no attribute '" ++ String.ofList name ++ "'"
  | .unsetMember name => String.ofList name
  | .keyNotNumber .tuple => "tuple indices must be integers or slices, not str"
  | .keyNotNumber _ => "string indices must be integers, not 'str'"
  | .noSuchItem .tuple => "tuple index out of range"
  | .noSuchItem _ => "string index out of range"
  | .noEntry key => key
  | .noItems holder => "'" ++ holder.fullName ++ "' object is not subscriptable"
  | .noItemsOfKind kind => "type '" ++ kind.fullName ++ "' is not subscriptable"
  | .alreadyFilled kind => kind ++ " is not a generic class"
  | .unknownConversion mark => "Unknown conversion specifier " ++ visibleOrNumber 127 mark
  | .noLayout holder => "unsupported format string passed to " ++ holder.fullName ++ ".__format__"
  | .unreadableSpec holder spec =>
    "Invalid format specifier '" ++ String.ofList spec ++ "' for object of type '" ++
      holder.fullName ++ "'"
  | .noPrecision => "Format specifier missing precision"
  | .twoSeparators => "Cannot specify both ',' and '_'."
  | .separatorForType separator type =>
    "Cannot specify '" ++ String.ofList [separator] ++ "' with '" ++ visibleOrNumber 128 type ++ "'."
  | .unknownType holder type =>
    "Unknown format code '" ++ visibleOrNumber 128 type ++ "' for object of type '" ++
      holder.fullName ++ "'"
  | .signOnText => "Sign not allowed in string format specifier"
  | .spaceOnText => "Space not allowed in string format specifier"
  | .negativeZeroOnText =>
    "Negative zero coercion (z) not allowed in string format specifier"
  | .alternateOnText => "Alternate form (#) not allowed in string format specifier"
  | .signAlignment => "'=' alignment not allowed in string format specifier"
  | .precisionOnNumber => "Precision not allowed in integer format specifier"
  | .precisionTooLarge => "precision too big"
  | .negativeZeroOnNumber => "Negative zero coercion (z) not allowed in integer format specifier"
  | .signOnCharacter => "Sign not allowed with integer format specifier 'c'"
  | .alternateOnCharacter => "Alternate form (#) not allowed with integer format specifier 'c'"
  | .noCharacter => "%c arg not in range(0x110000)"
  | .tooLong => ""

end HostReadiness.Template
