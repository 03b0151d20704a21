import Mathlib.Data.List.Basic
import Mathlib.Data.List.TakeWhile

set_option autoImplicit false

-- Texts of the C library, as lists of characters without the terminator.
namespace CText

-- The token, and the text after the delimiter that ended it, which a further
-- call works on.
def strtok (delims text : List Char) : Option (List Char × List Char) :=
  match text.dropWhile (fun c => decide (c ∈ delims)) with
  | [] => none
  | c :: rest =>
      some ((c :: rest).takeWhile (fun c => decide (c ∉ delims)), ((c :: rest).dropWhile (fun c => decide (c ∉ delims))).tail)

def spaces : List Char := [' ', '\t', '\n', '\x0b', '\x0c', '\r']

-- The value before it is brought into the range of an int.
def atoi (text : List Char) : Int :=
  match text.dropWhile (fun c => decide (c ∈ spaces)) with
  | '-' :: digits => - (Nat.ofDigitChars 10 (digits.takeWhile Char.isDigit) 0 : Int)
  | '+' :: digits => Nat.ofDigitChars 10 (digits.takeWhile Char.isDigit) 0
  | digits => Nat.ofDigitChars 10 (digits.takeWhile Char.isDigit) 0

def toInt (n : Int) : Int := Int.bmod n 4294967296

theorem to_int_of_range (n : Int) (low : -2147483648 ≤ n) (high : n ≤ 2147483647) : toInt n = n :=
  Int.bmod_eq_of_le_mul_two (by omega) (by omega)

def unsigned : List Char → List Char
  | '-' :: digits => digits
  | '+' :: digits => digits
  | digits => digits

def isNumeral (text : List Char) : Bool := !(unsigned text).isEmpty && (unsigned text).all Char.isDigit

def decimal (n : Nat) : List Char := Nat.toDigits 10 n

def signedDecimal : Int → List Char
  | .ofNat n => decimal n
  | .negSucc n => '-' :: decimal (n + 1)

theorem strtok_nil (delims : List Char) : strtok delims [] = none := rfl

theorem takeWhile_free (delims token rest : List Char) (free : ∀ c ∈ token, c ∉ delims)
    (ended : ∀ c ∈ rest.head?, c ∈ delims) :
    (token ++ rest).takeWhile (fun c => decide (c ∉ delims)) = token ∧
      (token ++ rest).dropWhile (fun c => decide (c ∉ delims)) = rest := by
  have whole : ∀ c ∈ token, decide (c ∉ delims) = true := fun c member => decide_eq_true (free c member)
  rw [List.takeWhile_append_of_pos whole, List.dropWhile_append_of_pos whole]
  cases rest with
  | nil => simp
  | cons d rest =>
      have stop : d ∈ delims := ended d rfl
      simp [stop]

theorem strtok_ended (delims token rest : List Char) (nonempty : token ≠ []) (free : ∀ c ∈ token, c ∉ delims)
    (ended : ∀ c ∈ rest.head?, c ∈ delims) : strtok delims (token ++ rest) = some (token, rest.tail) := by
  obtain ⟨taken, left⟩ := takeWhile_free delims token rest free ended
  cases token with
  | nil => exact absurd rfl nonempty
  | cons c token =>
      have start : c ∉ delims := free c List.mem_cons_self
      have skipped : (c :: token ++ rest).dropWhile (fun c => decide (c ∈ delims)) = c :: token ++ rest := by
        simp [start]
      unfold strtok
      rw [skipped]
      simp only [List.cons_append] at taken left ⊢
      rw [taken, left]

theorem strtok_last (delims token : List Char) (nonempty : token ≠ []) (free : ∀ c ∈ token, c ∉ delims) :
    strtok delims token = some (token, []) := by
  have whole := strtok_ended delims token [] nonempty free (by simp)
  rwa [List.append_nil] at whole

theorem strtok_token (delims text token rest : List Char) (found : strtok delims text = some (token, rest)) :
    token ≠ [] ∧ ∀ c ∈ token, c ∉ delims := by
  unfold strtok at found
  cases skipped : text.dropWhile (fun c => decide (c ∈ delims)) with
  | nil => simp [skipped] at found
  | cons c left =>
      rw [skipped] at found
      obtain ⟨taken, _⟩ := Prod.mk.inj (Option.some.inj found)
      have start : c ∉ delims := by
        have first := List.head_dropWhile_not (fun c => decide (c ∈ delims)) (l := text) (by simp [skipped])
        simpa [skipped] using first
      constructor
      · rw [← taken]
        simp [start]
      · intro d member
        rw [← taken] at member
        simpa using List.mem_takeWhile_imp member

theorem decimal_nonempty (n : Nat) : decimal n ≠ [] := Nat.toDigits_ne_nil

theorem decimal_digit (n : Nat) (c : Char) (member : c ∈ decimal n) : c.isDigit = true :=
  Nat.isDigit_of_mem_toDigits (by decide) (by decide) member

theorem decimal_inj (m n : Nat) (same : decimal m = decimal n) : m = n := by
  have values := congrArg (fun digits => Nat.ofDigitChars 10 digits 0) same
  simpa only [decimal, Nat.ofDigitChars_toDigits (by decide : 1 < 10) (by decide : 10 ≤ 10)] using values

theorem mem_unsigned (text : List Char) (c : Char) (member : c ∈ text) : c ∈ unsigned text ∨ c = '-' ∨ c = '+' := by
  unfold unsigned
  split
  · rcases List.mem_cons.mp member with sign | digit
    · exact .inr (.inl sign)
    · exact .inl digit
  · rcases List.mem_cons.mp member with sign | digit
    · exact .inr (.inr sign)
    · exact .inl digit
  · exact .inl member

theorem numeral_char (text : List Char) (numeral : isNumeral text = true) (c : Char) (member : c ∈ text) :
    c.isDigit = true ∨ c = '-' ∨ c = '+' := by
  rw [isNumeral, Bool.and_eq_true] at numeral
  exact (mem_unsigned text c member).imp_left (List.all_eq_true.mp numeral.2 c)

theorem numeral_nonempty (text : List Char) (numeral : isNumeral text = true) : text ≠ [] := by
  rintro rfl
  cases numeral

theorem decimal_numeral (n : Nat) : isNumeral (decimal n) = true := by
  have digits := decimal_digit n
  cases shape : decimal n with
  | nil => exact absurd shape (decimal_nonempty n)
  | cons c rest =>
      rw [shape] at digits
      have first := digits c List.mem_cons_self
      have kept : unsigned (c :: rest) = c :: rest := by
        unfold unsigned
        split
        · rename_i same
          obtain ⟨rfl, _⟩ := List.cons.inj same
          exact absurd first (by decide)
        · rename_i same
          obtain ⟨rfl, _⟩ := List.cons.inj same
          exact absurd first (by decide)
        · rfl
      rw [isNumeral, kept, List.isEmpty_cons, Bool.not_false, Bool.true_and]
      exact List.all_eq_true.mpr digits

theorem atoi_digits (c : Char) (rest : List Char) (digit : c.isDigit = true) :
    atoi (c :: rest) = Nat.ofDigitChars 10 ((c :: rest).takeWhile Char.isDigit) 0 := by
  have notSpace : c ∉ spaces := by
    intro member
    have none_ : spaces.all (fun d => !d.isDigit) = true := by decide
    have other := List.all_eq_true.mp none_ c member
    rw [digit] at other
    cases other
  have kept : (c :: rest).dropWhile (fun c => decide (c ∈ spaces)) = c :: rest := by simp [notSpace]
  unfold atoi
  rw [kept]
  split
  · rename_i same
    obtain ⟨rfl, _⟩ := List.cons.inj same
    exact absurd digit (by decide)
  · rename_i same
    obtain ⟨rfl, _⟩ := List.cons.inj same
    exact absurd digit (by decide)
  · rfl

theorem atoi_decimal (n : Nat) : atoi (decimal n) = n := by
  have digits := decimal_digit n
  have value : Nat.ofDigitChars 10 (decimal n) 0 = n := Nat.ofDigitChars_toDigits (by decide) (by decide)
  have all : (decimal n).takeWhile Char.isDigit = decimal n := List.takeWhile_eq_self_iff.mpr digits
  cases shape : decimal n with
  | nil => exact absurd shape (decimal_nonempty n)
  | cons c rest =>
      rw [atoi_digits c rest (digits c (shape ▸ List.mem_cons_self)), ← shape, all, value]

theorem atoi_signed_decimal (h : Int) : atoi (signedDecimal h) = h := by
  cases h with
  | ofNat n => exact atoi_decimal n
  | negSucc n =>
      have all : (decimal (n + 1)).takeWhile Char.isDigit = decimal (n + 1) :=
        List.takeWhile_eq_self_iff.mpr (decimal_digit (n + 1))
      have value : Nat.ofDigitChars 10 (decimal (n + 1)) 0 = n + 1 := Nat.ofDigitChars_toDigits (by decide) (by decide)
      have kept : ('-' :: decimal (n + 1)).dropWhile (fun c => decide (c ∈ spaces)) = '-' :: decimal (n + 1) := by
        simp [spaces]
      rw [signedDecimal, atoi, kept]
      show -((Nat.ofDigitChars 10 ((decimal (n + 1)).takeWhile Char.isDigit) 0 : Nat) : Int) = Int.negSucc n
      rw [all, value]
      rfl

theorem signed_decimal_length (h : Int) (low : -2147483648 ≤ h) (high : h ≤ 2147483647) : (signedDecimal h).length ≤ 11 := by
  cases h with
  | ofNat n =>
      rw [Int.ofNat_eq_natCast] at high
      have size : (decimal n).length ≤ 10 := (Nat.length_toDigits_le_iff (by decide) (by decide)).mpr (by omega)
      exact Nat.le_succ_of_le size
  | negSucc n =>
      have size : (decimal (n + 1)).length ≤ 10 := (Nat.length_toDigits_le_iff (by decide) (by decide)).mpr (by omega)
      exact Nat.succ_le_succ size

-- A buffer holds a text up to its first zero byte. A reader that meets no zero
-- byte runs out of the buffer.
def nul : Char := '\x00'

def cString : List Char → Option (List Char)
  | [] => none
  | c :: rest => if c = nul then some [] else (cString rest).map (fun text => c :: text)

-- none is a scan past the buffer, and some none a character that is not there.
def strchr (c : Char) : List Char → Option (Option Nat)
  | [] => none
  | d :: rest => if d = c then some (some 0) else if d = nul then some none else (strchr c rest).map (Option.map (· + 1))

def strspn (c : Char) : List Char → Option Nat
  | [] => none
  | d :: rest => if d = c then (strspn c rest).map (· + 1) else some 0

def strncpy (buffer text : List Char) (n : Nat) : List Char :=
  text.take n ++ List.replicate (n - text.length) nul ++ buffer.drop n

theorem c_string_ended (text rest : List Char) (plain : nul ∉ text) : cString (text ++ nul :: rest) = some text := by
  induction text with
  | nil => rw [List.nil_append, cString, if_pos rfl]
  | cons c text ih =>
      rw [List.mem_cons, not_or] at plain
      rw [List.cons_append, cString, if_neg (Ne.symm plain.1), ih plain.2, Option.map_some]

theorem strchr_found (c : Char) (text rest : List Char) (plain : nul ∉ text) (absent : c ∉ text) :
    strchr c (text ++ c :: rest) = some (some text.length) := by
  induction text with
  | nil => rw [List.nil_append, strchr, if_pos rfl, List.length_nil]
  | cons d text ih =>
      rw [List.mem_cons, not_or] at plain absent
      rw [List.cons_append, strchr, if_neg (Ne.symm absent.1), if_neg (Ne.symm plain.1), ih plain.2 absent.2]
      rfl

theorem strchr_absent (c : Char) (text rest : List Char) (other : c ≠ nul) (plain : nul ∉ text) (absent : c ∉ text) :
    strchr c (text ++ nul :: rest) = some none := by
  induction text with
  | nil => rw [List.nil_append, strchr, if_neg (Ne.symm other), if_pos rfl]
  | cons d text ih =>
      rw [List.mem_cons, not_or] at plain absent
      rw [List.cons_append, strchr, if_neg (Ne.symm absent.1), if_neg (Ne.symm plain.1), ih plain.2 absent.2]
      rfl

theorem strspn_ended (c : Char) (text rest : List Char) (other : c ≠ nul) :
    ∃ n, strspn c (text ++ nul :: rest) = some n ∧ n = text.length - (text.dropWhile (fun d => decide (d = c))).length ∧
      (text ++ nul :: rest).drop n = text.dropWhile (fun d => decide (d = c)) ++ nul :: rest := by
  induction text with
  | nil => exact ⟨0, by rw [List.nil_append, strspn, if_neg (Ne.symm other)], rfl, rfl⟩
  | cons d text ih =>
      have shorter : (text.dropWhile (fun d => decide (d = c))).length ≤ text.length := (List.dropWhile_sublist _).length_le
      by_cases same : d = c
      · obtain ⟨n, spanned, size, dropped⟩ := ih
        refine ⟨n + 1, by rw [List.cons_append, strspn, if_pos same, spanned, Option.map_some], ?_, ?_⟩
        · rw [List.dropWhile_cons_of_pos (by simpa using same), List.length_cons]
          omega
        · rw [List.dropWhile_cons_of_pos (by simpa using same), List.cons_append, List.drop_succ_cons, dropped]
      · refine ⟨0, by rw [List.cons_append, strspn, if_neg same], ?_, ?_⟩
        · rw [List.dropWhile_cons_of_neg (by simpa using same), Nat.sub_self]
        · rw [List.dropWhile_cons_of_neg (by simpa using same), List.drop_zero]

end CText
