import K4W.Library.CInt

/-!
# C texts

A text in an array ends at the first null character.  `strncpy` fills what a
shorter text leaves, `snprintf` and `fgets` cut off what does not fit, and `atoi`
reads back what `%d` wrote.
-/

namespace K4W.Library.CText

/-- A text without null characters, as the callers of the functions below pass it. -/
structure CString where
  chars : List Char
  noNull : '\x00' ∉ chars

/-- The text that an array holds. -/
def textOf (array : List Char) : List Char :=
  array.takeWhile (· ≠ '\x00')

/-- `strncpy` to the front of an array of at least `n` characters. -/
def strncpy (array text : List Char) (n : Nat) : List Char :=
  text.take n ++ List.replicate (n - text.length) '\x00' ++ array.drop n

/-- `snprintf` to an array of `size` characters, given the whole text. -/
def snprintf (size : Nat) (text : List Char) : List Char :=
  text.take (size - 1)

/-- `fgets` of the first line, or of as much as an array of `size` characters holds. -/
def fgets (size : Nat) (output : List Char) : Option (List Char) :=
  match output with
  | [] => none
  | _ :: _ =>
      let line := output.takeWhile (· ≠ '\n')
      some ((if line.length < output.length then line ++ ['\n'] else line).take (size - 1))

def decimal (n : Nat) : List Char :=
  Nat.toDigits 10 n

def isSpace (char : Char) : Bool :=
  char ∈ [' ', '\t', '\n', '\x0b', '\x0c', '\r']

/-- The digits at the front as a number. -/
def readDigits (text : List Char) : Nat :=
  Nat.ofDigitChars 10 (text.takeWhile Char.isDigit) 0

def atoi (text : List Char) : Int32 :=
  match text.dropWhile isSpace with
  | '-' :: rest => Int32.ofInt (-readDigits rest)
  | '+' :: rest => Int32.ofInt (readDigits rest)
  | rest => Int32.ofInt (readDigits rest)

/-! ## Copies -/

/-- What stands before the first character of another kind. -/
theorem takeWhile_front {kind : Char → Bool} {front rest : List Char}
    (hfront : ∀ char ∈ front, kind char = true) (hrest : ∀ char ∈ rest.head?, kind char = false) :
    (front ++ rest).takeWhile kind = front := by
  rw [List.takeWhile_append_of_pos hfront]
  cases rest with
  | nil => simp
  | cons char rest =>
      have hchar := hrest char rfl
      rw [List.takeWhile_cons_of_neg (by rw [hchar]; exact Bool.false_ne_true), List.append_nil]

/-- The character behind the copy is that of the array. -/
theorem getElem?_strncpy (array text : List Char) (n : Nat) :
    (strncpy array text n)[n]? = array[n]? := by
  have hlength : (text.take n ++ List.replicate (n - text.length) '\x00').length = n := by
    rw [List.length_append, List.length_take, List.length_replicate]
    omega
  rw [strncpy, List.getElem?_append_right (Nat.le_of_eq hlength), hlength, Nat.sub_self,
    List.getElem?_drop, Nat.add_zero]

/-- A copy is the text itself, or as much of it as there is room for. -/
theorem textOf_strncpy {array text : List Char} {n : Nat} (hlast : array[n]? = some '\x00')
    (htext : '\x00' ∉ text) : textOf (strncpy array text n) = text.take n := by
  rw [textOf, strncpy, List.append_assoc]
  apply takeWhile_front
  · intro char hchar
    have hne : char ≠ '\x00' := fun hnull => htext (hnull ▸ List.mem_of_mem_take hchar)
    exact decide_eq_true hne
  · intro char hchar
    have hnull : char = '\x00' := by
      cases hrest : n - text.length with
      | zero =>
          rw [hrest, List.replicate_zero, List.nil_append, List.head?_drop, hlast] at hchar
          exact (Option.mem_some_iff.mp hchar).symm
      | succ rest =>
          rw [hrest, List.replicate_succ, List.cons_append, List.head?_cons] at hchar
          exact (Option.mem_some_iff.mp hchar).symm
    rw [hnull]
    rfl

theorem snprintf_of_lt {size : Nat} {text : List Char} (hfits : text.length < size) :
    snprintf size text = text :=
  List.take_of_length_le (by omega)

/-! ## Numbers -/

theorem isDigit_decimal {n : Nat} {char : Char} (hmem : char ∈ decimal n) : char.isDigit = true :=
  Nat.isDigit_of_mem_toDigits (by decide) (by decide) hmem

theorem decimal_ne_nil (n : Nat) : decimal n ≠ [] :=
  Nat.toDigits_ne_nil

theorem length_decimal_le {n : Nat} (hn : n < 2 ^ 31) : (decimal n).length ≤ 10 :=
  (Nat.length_toDigits_le_iff (by decide) (by decide)).mpr (by omega)

theorem readDigits_decimal (n : Nat) {rest : List Char}
    (hrest : ∀ char ∈ rest.head?, char.isDigit = false) : readDigits (decimal n ++ rest) = n := by
  rw [readDigits, takeWhile_front (fun _ hchar => isDigit_decimal hchar) hrest]
  exact Nat.ofDigitChars_ten_toDigits

theorem isSpace_of_isDigit {char : Char} (hdigit : char.isDigit = true) : isSpace char = false := by
  rw [← Bool.not_eq_true]
  intro hspace
  simp only [isSpace, List.mem_cons, List.not_mem_nil, or_false, decide_eq_true_eq] at hspace
  rcases hspace with rfl | rfl | rfl | rfl | rfl | rfl <;> cases hdigit

/-- A number in front of a text is read. -/
theorem atoi_decimal {n : Nat} (hn : n < 2 ^ 31) {rest : List Char}
    (hrest : ∀ char ∈ rest.head?, char.isDigit = false) :
    (atoi (decimal n ++ rest)).toInt = n := by
  have hread := readDigits_decimal n hrest
  cases hdigits : decimal n with
  | nil => exact absurd hdigits (decimal_ne_nil n)
  | cons first digits =>
      have hfirst : first.isDigit = true := isDigit_decimal (hdigits ▸ List.mem_cons_self)
      have hspace := isSpace_of_isDigit hfirst
      rw [hdigits, List.cons_append] at hread
      have hdrop : (first :: digits ++ rest).dropWhile isSpace = first :: (digits ++ rest) :=
        List.dropWhile_cons_of_neg (by rw [hspace]; exact Bool.false_ne_true)
      rw [atoi, hdrop]
      split
      · next hsign =>
          cases (List.cons.inj hsign).1
          cases hfirst
      · next hsign =>
          cases (List.cons.inj hsign).1
          cases hfirst
      · rw [hread]
        exact Int32.toInt_ofInt_of_le (by omega) (by omega)

/-- A printed line is read as a whole. -/
theorem fgets_decimal {n size : Nat} (hn : n < 2 ^ 31) (hsize : 12 ≤ size) :
    fgets size (decimal n ++ ['\n']) = some (decimal n ++ ['\n']) := by
  have hline : (decimal n ++ ['\n']).takeWhile (· ≠ '\n') = decimal n := by
    apply takeWhile_front
    · intro char hchar
      have hdigit := isDigit_decimal hchar
      have hne : char ≠ '\n' := by
        rintro rfl
        cases hdigit
      exact decide_eq_true hne
    · intro char hchar
      cases hchar
      rfl
  have hlength := length_decimal_le hn
  cases houtput : decimal n ++ ['\n'] with
  | nil => exact absurd houtput (by simp)
  | cons first rest =>
      rw [fgets, ← houtput, hline, if_pos (by simp), List.take_of_length_le]
      rw [List.length_append, List.length_singleton]
      omega

end K4W.Library.CText
