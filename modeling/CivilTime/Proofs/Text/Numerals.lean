import CivilTime.Text.Digit

/-!
# Numerals

A number that is written with zeros on the left (`padded`) consists of decimal digits, is no longer than its width and its
digits ask for, and is read back as that number (`numeralValue_padded`).
-/

namespace CivilTime

theorem toNat_of_isDigit {c : Char} (h : c.isDigit = true) : 48 ≤ c.toNat ∧ c.toNat ≤ 57 := by
  simp only [Char.isDigit, Bool.and_eq_true, decide_eq_true_eq, ge_iff_le, UInt32.le_iff_toNat_le] at h
  exact h

theorem digitValue?_of_isDigit {c : Char} (h : c.isDigit = true) : digitValue? c = some (c.toNat - '0'.toNat) := by
  have hc := toNat_of_isDigit h
  unfold digitValue? digitZeros
  rw [List.find?_cons_of_pos]
  · rfl
  · simp only [Bool.and_eq_true, decide_eq_true_eq]
    omega

/-- A digit of any script stands for less than ten. -/
theorem digitValue?_getD_lt (c : Char) : (digitValue? c).getD 0 < 10 := by
  unfold digitValue?
  cases hfind : digitZeros.find? fun first => first ≤ c.toNat && c.toNat < first + 10 with
  | none => exact Nat.zero_lt_succ 9
  | some first =>
    have := List.find?_some hfind
    simp only [Bool.and_eq_true, decide_eq_true_eq] at this
    simp only [Option.map_some, Option.getD_some]
    omega

theorem isDigit_of_char {c : Char} (h : c.isDigit = true) : isDigit c = true := by
  unfold isDigit
  rw [digitValue?_of_isDigit h]
  rfl

/-- On the digits of ASCII a numeral is read as usual. -/
private theorem numeralValue_eq_ofDigitChars {cs : List Char} (h : ∀ c ∈ cs, c.isDigit = true) :
    numeralValue cs = Nat.ofDigitChars 10 cs 0 := by
  have hfold : ∀ n, cs.foldl (fun n c => 10 * n + (digitValue? c).getD 0) n = Nat.ofDigitChars 10 cs n := by
    induction cs with
    | nil => simp
    | cons c cs ih =>
      intro n
      have hc := h c List.mem_cons_self
      rw [List.foldl_cons, digitValue?_of_isDigit hc, Option.getD_some, ih fun d hd => h d (List.mem_cons_of_mem _ hd),
        Nat.ofDigitChars_cons]
  exact hfold 0

variable {width n : Nat}

theorem toList_padded (width n : Nat) :
    (padded width n).toList =
      List.replicate (width - (Nat.toDigits 10 n).length) '0' ++ Nat.toDigits 10 n := by
  simp [padded]

theorem isDigit_of_mem_padded {c : Char} (h : c ∈ (padded width n).toList) : c.isDigit = true := by
  rw [toList_padded, List.mem_append] at h
  rcases h with h | h
  · rw [List.eq_of_mem_replicate h]
    decide
  · exact Nat.isDigit_of_mem_toDigits (by decide) (by decide) h

theorem numeralValue_padded (width n : Nat) : numeralValue (padded width n).toList = n := by
  rw [numeralValue_eq_ofDigitChars fun c h => isDigit_of_mem_padded h, toList_padded, Nat.ofDigitChars_append,
    Nat.ofDigitChars_replicate_zero, Nat.mul_zero, Nat.ofDigitChars_ten_toDigits]

theorem le_length_padded (width n : Nat) : width ≤ (padded width n).toList.length := by
  rw [toList_padded, List.length_append, List.length_replicate]
  omega

theorem length_padded_pos (width n : Nat) : 0 < (padded width n).toList.length := by
  have := @Nat.length_toDigits_pos 10 n
  rw [toList_padded, List.length_append]
  omega

/-- A number of at most `k` digits is no longer than `k` and its width. -/
theorem length_padded_le {k : Nat} (hk : 0 < k) (hn : n < Nat.pow 10 k) : (padded width n).toList.length ≤ max width k := by
  have := (Nat.length_toDigits_le_iff (b := 10) (by decide) hk).2 hn
  rw [toList_padded, List.length_append, List.length_replicate]
  omega

/-- A numeral is less than the power of ten for its length. -/
theorem numeralValue_lt (digits : List Char) : numeralValue digits < Nat.pow 10 digits.length := by
  have hfold : ∀ n, digits.foldl (fun n c => 10 * n + (digitValue? c).getD 0) n < (n + 1) * 10 ^ digits.length := by
    induction digits with
    | nil => simp
    | cons c digits ih =>
      intro n
      have hc := digitValue?_getD_lt c
      rw [List.foldl_cons, List.length_cons, Nat.pow_succ']
      calc digits.foldl (fun n c => 10 * n + (digitValue? c).getD 0) (10 * n + (digitValue? c).getD 0)
          < (10 * n + (digitValue? c).getD 0 + 1) * 10 ^ digits.length := ih _
        _ ≤ ((n + 1) * 10) * 10 ^ digits.length := Nat.mul_le_mul_right _ (by omega)
        _ = (n + 1) * (10 * 10 ^ digits.length) := Nat.mul_assoc _ _ _
  have hzero := hfold 0
  rw [Nat.zero_add, Nat.one_mul] at hzero
  exact hzero

/-- A numeral that goes on stands for the number of its front, moved by as many places, and that of the rest. -/
theorem numeralValue_append (front back : List Char) :
    numeralValue (front ++ back) = numeralValue front * Nat.pow 10 back.length + numeralValue back := by
  have hfold : ∀ n, back.foldl (fun n c => 10 * n + (digitValue? c).getD 0) n = n * 10 ^ back.length + numeralValue back := by
    unfold numeralValue
    induction back with
    | nil => simp
    | cons c back ih =>
      intro n
      rw [List.foldl_cons, List.foldl_cons, ih, ih (10 * 0 + _), List.length_cons, Nat.pow_succ', Nat.mul_zero, Nat.zero_add,
        Nat.add_mul, ← Nat.mul_assoc, Nat.mul_comm 10 n, Nat.add_assoc]
  unfold numeralValue
  rw [List.foldl_append]
  exact hfold _

/-- The front of a numeral stands for the number without the digits that follow. -/
theorem numeralValue_take (k : Nat) (digits : List Char) :
    numeralValue (digits.take k) = numeralValue digits / Nat.pow 10 (digits.length - k) := by
  have hlt : numeralValue (digits.drop k) < Nat.pow 10 (digits.length - k) := by
    rw [← List.length_drop]
    exact numeralValue_lt _
  have hparts := numeralValue_append (digits.take k) (digits.drop k)
  rw [List.take_append_drop, List.length_drop] at hparts
  rw [hparts, Nat.mul_comm, Nat.mul_add_div (by omega), Nat.div_eq_of_lt hlt, Nat.add_zero]

theorem length_padded_two (h : n < 100) : (padded 2 n).toList.length = 2 := by
  have hle := @length_padded_le 2 n 2 (by decide) h
  have hge := le_length_padded 2 n
  omega

end CivilTime
