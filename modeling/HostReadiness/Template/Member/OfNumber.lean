import HostReadiness.Template.Member

/-! The members of numbers. -/

namespace HostReadiness.Template.Kind

def numberMembers : List Member :=
  creator ::
  operations ["__repr__", "__hash__", "__getattribute__", "__lt__", "__le__", "__eq__", "__ne__",
    "__gt__", "__ge__", "__add__", "__radd__", "__sub__", "__rsub__", "__mul__", "__rmul__",
    "__mod__", "__rmod__", "__divmod__", "__rdivmod__", "__pow__", "__rpow__", "__neg__",
    "__pos__", "__abs__", "__bool__", "__invert__", "__lshift__", "__rlshift__", "__rshift__",
    "__rrshift__", "__and__", "__rand__", "__xor__", "__rxor__", "__or__", "__ror__", "__int__",
    "__float__", "__floordiv__", "__rfloordiv__", "__truediv__", "__rtruediv__", "__index__"] ++ [
    ⟨"conjugate", .method, none, ["Returns self, the complex conjugate of any int."]⟩,
    ⟨"bit_length", .method, some "($self, /)",
      ["Number of bits necessary to represent self in binary.", "", ">>> bin(37)", "'0b100101'",
       ">>> (37).bit_length()", "6"]⟩,
    ⟨"bit_count", .method, some "($self, /)",
      ["Number of ones in the binary representation of the absolute value of self.", "",
       "Also known as the population count.", "", ">>> bin(13)", "'0b1101'",
       ">>> (13).bit_count()", "3"]⟩,
    ⟨"to_bytes", .method, some "($self, /, length=1, byteorder='big', *, signed=False)",
      ["Return an array of bytes representing an integer.", "", "  length",
       "    Length of bytes object to use.  An OverflowError is raised if the",
       "    integer is not representable with the given number of bytes.  Default",
       "    is length 1.", "  byteorder",
       "    The byte order used to represent the integer.  If byteorder is 'big',",
       "    the most significant byte is at the beginning of the byte array.  If",
       "    byteorder is 'little', the most significant byte is at the end of the",
       "    byte array.  To request the native byte order of the host system, use",
       "    `sys.byteorder' as the byte order value.  Default is to use 'big'.", "  signed",
       "    Determines whether two's complement is used to represent the integer.",
       "    If signed is False and a negative integer is given, an OverflowError",
       "    is raised."]⟩,
    ⟨"from_bytes", .kindMethod, some "($type, /, bytes, byteorder='big', *, signed=False)",
      ["Return the integer represented by the given array of bytes.", "", "  bytes",
       "    Holds the array of bytes to convert.  The argument must either",
       "    support the buffer protocol or be an iterable object producing bytes.",
       "    Bytes and bytearray are examples of built-in objects that support the",
       "    buffer protocol.", "  byteorder",
       "    The byte order used to represent the integer.  If byteorder is 'big',",
       "    the most significant byte is at the beginning of the byte array.  If",
       "    byteorder is 'little', the most significant byte is at the end of the",
       "    byte array.  To request the native byte order of the host system, use",
       "    `sys.byteorder' as the byte order value.  Default is to use 'big'.", "  signed",
       "    Indicates whether two's complement is used to represent the integer."]⟩,
    ⟨"as_integer_ratio", .method, some "($self, /)",
      ["Return integer ratio.", "",
       "Return a pair of integers, whose ratio is exactly equal to the original int",
       "and with a positive denominator.", "", ">>> (10).as_integer_ratio()", "(10, 1)",
       ">>> (-10).as_integer_ratio()", "(-10, 1)", ">>> (0).as_integer_ratio()", "(0, 1)"]⟩,
    ⟨"__trunc__", .method, none, ["Truncating an Integral returns itself."]⟩,
    ⟨"__floor__", .method, none, ["Flooring an Integral returns itself."]⟩,
    ⟨"__ceil__", .method, none, ["Ceiling of an Integral returns itself."]⟩,
    ⟨"__round__", .method, some "($self, ndigits=<unrepresentable>, /)",
      ["Rounding an Integral returns itself.", "",
       "Rounding with an ndigits argument also returns an integer."]⟩,
    ⟨"__getnewargs__", .method, some "($self, /)", []⟩,
    ⟨"__format__", .method, some "($self, format_spec, /)", []⟩,
    ⟨"__sizeof__", .method, some "($self, /)", ["Returns size in memory, in bytes."]⟩,
    ⟨"real", .computed, none, ["the real part of a complex number"]⟩,
    ⟨"imag", .computed, none, ["the imaginary part of a complex number"]⟩,
    ⟨"numerator", .computed, none, ["the numerator of a rational number in lowest terms"]⟩,
    ⟨"denominator", .computed, none, ["the denominator of a rational number in lowest terms"]⟩,
    ⟨"__doc__", .constant, none,
      ["int([x]) -> integer", "int(x, base=10) -> integer", "",
       "Convert a number or string to an integer, or return 0 if no arguments",
       "are given.  If x is a number, return x.__int__().  For floating point",
       "numbers, this truncates towards zero.", "",
       "If x is not a number or if base is given, then x must be a string,",
       "bytes, or bytearray instance representing an integer literal in the",
       "given base.  The literal can be preceded by '+' or '-' and be surrounded",
       "by whitespace.  The base defaults to 10.  Valid bases are 0 and 2-36.",
       "Base 0 means to interpret the base from the string as an integer literal.",
       ">>> int('0b100', base=0)", "4"]⟩]

end HostReadiness.Template.Kind
