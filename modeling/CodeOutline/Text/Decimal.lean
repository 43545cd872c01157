set_option autoImplicit false

namespace CodeOutline.Text

def digit (n : Nat) : Char :=
  Char.ofNat (48 + n)

def digits (n : Nat) : List Char :=
  if n < 10 then [digit n] else digits (n / 10) ++ [digit (n % 10)]

def valueOf (cs : List Char) : Nat :=
  cs.foldl (fun value c => value * 10 + (c.toNat - 48)) 0

def numeral (n : Nat) : String :=
  String.ofList (digits n)

theorem isDigit_digit {n : Nat} (small : n < 10) : (digit n).isDigit := by
  revert n
  decide

theorem isDigit_of_mem_digits {n : Nat} {c : Char} (member : c ∈ digits n) : c.isDigit := by
  fun_induction digits n with
  | case1 n small =>
      rw [List.mem_singleton.mp member]
      exact isDigit_digit small
  | case2 n large ih =>
      rcases List.mem_append.mp member with front | last
      · exact ih front
      · rw [List.mem_singleton.mp last]
        exact isDigit_digit (Nat.mod_lt n (by decide))

end CodeOutline.Text
