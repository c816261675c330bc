namespace Recipe.Decimal

def digitChar (d : Nat) : Char := Char.ofNat (48 + d)

def digitValue (c : Char) : Nat := c.toNat - 48

def isDigit (c : Char) : Bool := 48 ≤ c.toNat && c.toNat ≤ 57

def natDigits (n : Nat) : List Char :=
  if n < 10 then [digitChar n] else natDigits (n / 10) ++ [digitChar (n % 10)]

def natOfDigits (cs : List Char) : Nat := cs.foldl (fun n c => 10 * n + digitValue c) 0

def hexDigit (d : Nat) : Char := if d < 10 then digitChar d else Char.ofNat (87 + d)

def hexDigits (n : Nat) : List Char :=
  if n < 16 then [hexDigit n] else hexDigits (n / 16) ++ [hexDigit (n % 16)]

def intDigits (i : Int) : List Char :=
  if i < 0 then '-' :: natDigits i.natAbs else natDigits i.natAbs

theorem digitValue_digitChar : ∀ {d : Nat}, d < 10 → digitValue (digitChar d) = d := by decide

theorem isDigit_digitChar : ∀ {d : Nat}, d < 10 → isDigit (digitChar d) = true := by decide

theorem isDigit_of_mem_natDigits {n : Nat} {c : Char} (h : c ∈ natDigits n) : isDigit c = true := by
  fun_induction natDigits n with
  | case1 n hn =>
    cases List.mem_singleton.1 h
    exact isDigit_digitChar hn
  | case2 n _ ih =>
    rcases List.mem_append.1 h with h | h
    · exact ih h
    · cases List.mem_singleton.1 h
      exact isDigit_digitChar (Nat.mod_lt n (by decide))

theorem natDigits_ne_nil (n : Nat) : natDigits n ≠ [] := by
  fun_cases natDigits n <;> simp

end Recipe.Decimal
