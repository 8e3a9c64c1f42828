/-!
Powers of two and of ten as plain natural numbers.
-/

namespace NamedSql

abbrev twoTo (exponent : Nat) : Nat :=
  Nat.pow 2 exponent

abbrev tenTo (exponent : Nat) : Nat :=
  Nat.pow 10 exponent

end NamedSql
