/-! # Machine words

Numbers of rows and positions are kept in words of 64 bits. Sums go round: after the largest word
comes zero.
-/

namespace ScrollCursor

/-- What a machine word keeps of a number. -/
def word (n : Nat) : Nat :=
  n % UInt64.size

theorem word_lt (n : Nat) : word n < UInt64.size :=
  Nat.mod_lt n (by decide)

theorem word_of_lt {n : Nat} (h : n < UInt64.size) : word n = n :=
  Nat.mod_eq_of_lt h

theorem add_word (m n : Nat) : word (m + word n) = word (m + n) :=
  Nat.add_mod_mod m n UInt64.size

end ScrollCursor
