/-!
# Scalars

Vector entries are of any type with addition, multiplication and a reading of the integers. The
library assumes no law of them. Floating-point numbers are one instance.
-/
namespace GatherScatter

/-- Every integer below `2 ^ 53` in absolute value is read exactly. -/
instance instIntCastFloat : IntCast Float := ⟨Float.ofInt⟩

end GatherScatter
