/-!
# Machine words

The numbers of values of unsigned words, and of those without the highest bit.
-/

namespace SourceAtlas

/-- The number of words of 64 bits. -/
abbrev Word64.count : Nat := 18446744073709551616

/-- The number of words of 64 bits without the highest bit. -/
abbrev Word64.half : Nat := 9223372036854775808

/-- The number of words of 32 bits. -/
abbrev Word32.count : Nat := 4294967296

/-- The number of words of 32 bits without the highest bit. -/
abbrev Word32.half : Nat := 2147483648

end SourceAtlas
